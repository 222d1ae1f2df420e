import BillVpn.FakeIP.Runs

/-!
# A full block

The search of `Allocate` gives up when it is back at the address it began with.  Over a block that is
written with its network address it has then seen every other address, and each of them was held.

* `passed`                what the search has seen on its way from `j` to `c`, round the end;
* `allocateLoop_full`     a search that gives up has found every address held;
* `allocate_settled`      one call: the address is free, or nothing is left and nothing has moved;
* `allocate_exhausts`     **`Allocate` ends, and fails exactly when there is nothing left**, in every
                          state that calls can reach.
-/

set_option linter.unusedVariables false

namespace Bill
open Go FakeIPStore

namespace FakeIPStore
variable {s : FakeIPStore} {now : Int}

/-! ## what the search has seen -/

/-- `k` was looked at on the way from `j` to `c` -/
def passed (j c k : Nat) : Prop := if j ≤ c then j ≤ k ∧ k < c else j ≤ k ∨ k < c

def HeldAt (s : FakeIPStore) (k : Nat) : Prop := ∃ e, s.ipToEntry.get (addrText (s.pfx.nth k)) = some e

def lookedAt (s : FakeIPStore) (c : Nat) : Nat := if c < s.pfx.stop then c else s.first

theorem lookedAt_bounds (hr : Roomy s.pfx) {c : Nat} (h1 : s.first ≤ c) :
    s.first ≤ s.lookedAt c ∧ s.lookedAt c < s.pfx.stop := by
  have hfirst : s.first < s.pfx.stop := hr.last
  unfold lookedAt
  split_ifs
  · omega
  · omega

theorem passed_step (hr : Roomy s.pfx) {j c k : Nat} (hj1 : s.first < j) (hj2 : j ≤ s.pfx.stop)
    (h1 : s.first ≤ c) (h2 : c ≤ s.pfx.stop) (hk1 : s.first ≤ k) (hk2 : k < s.pfx.stop)
    (h : passed j (s.lookedAt c + 1) k ∨ s.lookedAt c + 1 = j) :
    passed j c k ∨ k = s.lookedAt c := by
  unfold passed lookedAt at *
  split_ifs at * <;> omega

/-- **A search that gives up has found every address held.** -/
theorem allocateLoop_full (hr : Roomy s.pfx) {domain : Bytes} {expiresAt : Int} {s' : FakeIPStore}
    {msg : String} {j : Nat} (hj1 : s.first < j) (hj2 : j ≤ s.pfx.stop) (fuel : Nat) :
    ∀ c, s.first ≤ c → c ≤ s.pfx.stop →
    (∀ k, s.first ≤ k → k < s.pfx.stop → passed j c k → s.HeldAt k) →
    s.allocateLoop domain now expiresAt (s.pfx.nth j) fuel (s.pfx.nth c) = some (.error msg, s') →
    ∀ k, s.first ≤ k → k < s.pfx.stop → s.HeldAt k := by
  induction fuel with
  | zero => intro c h1 h2 hseen h; cases h
  | succ fuel ih =>
    intro c h1 h2 hseen h
    obtain ⟨hk1, hk2⟩ := lookedAt_bounds hr h1
    have htop := hr.top
    rw [allocateLoop] at h
    dsimp only at h
    rw [candidate_eq hr h1 h2, show (if c < s.pfx.stop then c else s.first) = s.lookedAt c from rfl] at h
    cases hg : s.ipToEntry.get (addrText (s.pfx.nth (s.lookedAt c))) with
    | none => rw [hg] at h; cases h
    | some e =>
      rw [hg] at h
      dsimp only at h
      -- with this round's address everything up to the next candidate is held
      have hseen' : ∀ k, s.first ≤ k → k < s.pfx.stop →
          passed j (s.lookedAt c + 1) k ∨ s.lookedAt c + 1 = j → s.HeldAt k := by
        intro k hk1 hk2 hp
        rcases passed_step hr hj1 hj2 h1 h2 hk1 hk2 hp with hp | rfl
        · exact hseen k hk1 hk2 hp
        · exact ⟨e, hg⟩
      by_cases hl : e.live now = true
      · rw [if_pos hl, Pfx.nth_bind_next (by omega)] at h
        by_cases hend : s.pfx.nth (s.lookedAt c + 1) = s.pfx.nth j
        · have hj : s.lookedAt c + 1 = j := Pfx.nth_inj (by omega) hend
          exact fun k hk1 hk2 => hseen' k hk1 hk2 (.inr hj)
        · rw [if_neg hend] at h
          exact ih _ (by omega) (by omega) (fun k hk1 hk2 hp => hseen' k hk1 hk2 (.inl hp)) h
      · rw [if_neg hl] at h
        cases h

theorem allocateLocked_full (hs : s.WF) {domain : Bytes} {expiresAt : Int} {s' : FakeIPStore}
    {msg : String} (h : s.allocateLocked domain now expiresAt = some (.error msg, s')) :
    ∀ k, s.first ≤ k → k < s.pfx.stop → s.HeldAt k := by
  obtain ⟨j, hj, h1, h2, hempty⟩ := hs.cursor
  unfold allocateLocked at h
  cases hd : s.domainToEntry.get domain with
  | some e => rw [hd] at h; cases h
  | none =>
    rw [hd] at h
    dsimp only at h
    rw [hj] at h
    by_cases hfirst : j = s.first
    · -- nothing was ever handed out, so the first address is free
      obtain ⟨n, hn⟩ : ∃ n, 2 ^ s.pfx.hostBits = n + 1 :=
        ⟨2 ^ s.pfx.hostBits - 1, by have := Nat.two_pow_pos s.pfx.hostBits; omega⟩
      rw [hn, allocateLoop, hempty hfirst] at h
      cases h
    · refine allocateLoop_full hs.roomy (by omega) h2 _ j h1 h2 (fun k hk1 hk2 hp => ?_) h
      unfold passed at hp
      rw [if_pos le_rfl] at hp
      omega

/-! ## blocks that are written with their network address -/

theorem nth_of_contains {p : Pfx} {a : Addr} (h : p.contains a = true) :
    p.nth a.val = some a ∧ p.base ≤ a.val ∧ a.val < p.stop := by
  obtain ⟨hz, hl, hlo, hhi⟩ := Pfx.contains_iff.mp h
  exact ⟨Addr.withVal_eq_some.mpr ⟨hl, hz.trans p.zoneless.symm, rfl⟩, hlo, hhi⟩

/-- the domain has no live entry, and every address but the network address is held by another -/
structure NoneLeft (s : FakeIPStore) (domain : Bytes) (now : Int) : Prop where
  new : ∀ e, s.domainToEntry.get domain = some e → e.live now = false
  full : ∀ a, s.pfx.contains a = true → a.val ≠ s.pfx.base →
    ∃ e, s.ipToEntry.get a.text = some e ∧ e.live now = true ∧ e.domain ≠ domain

structure Unmoved (s s' : FakeIPStore) (now : Int) : Prop where
  next : s'.next = s.next
  byDomain : ∀ d e, e.live now = true →
    (s'.domainToEntry.get d = some e ↔ s.domainToEntry.get d = some e)
  byIP : ∀ ip e, e.live now = true → (s'.ipToEntry.get ip = some e ↔ s.ipToEntry.get ip = some e)

theorem Filtered.unmoved {s' : FakeIPStore} (h : Filtered (FakeIPEntry.live now) s s') :
    Unmoved s s' now where
  next := h.next
  byDomain d e hl := by
    rw [h.byDomain, Option.filter_eq_some_iff]
    exact ⟨fun he => he.1, fun he => ⟨he, hl⟩⟩
  byIP ip e hl := by
    rw [h.byIP, Option.filter_eq_some_iff]
    exact ⟨fun he => he.1, fun he => ⟨he, hl⟩⟩

def exhaustedMsg : String := "fake ip pool exhausted"

structure Settled (s : FakeIPStore) (domain : Bytes) (now : Int) (r : Except String Bytes)
    (s' : FakeIPStore) : Prop where
  fails : r = .error exhaustedMsg ↔ s.NoneLeft domain now
  unmoved : r = .error exhaustedMsg → Unmoved s s' now
  free : r ≠ .error exhaustedMsg → ∃ ip, r = .ok ip ∧
    ∀ e, s.ipToEntry.get ip = some e → e.live now = true → e.domain = domain

theorem allocate_settled (hs : s.WF) (hbase : s.pfx.addr.val = s.pfx.base) {lower : Bytes → Bytes}
    {domain : Bytes} (hd : lower domain ≠ []) (lifetime now : Int) :
    ∃ r s', s.allocate lower domain lifetime now = some (r, s') ∧
      s.Settled (lower domain) now r s' := by
  have hf := cleanup_filtered now hs.paired
  have hwf := hf.wf hs
  obtain ⟨r, hr, ho⟩ := allocateLocked_outcome hwf
    (fun ip e he => by rw [hf.byIP, Option.filter_eq_some_iff] at he; exact he.2)
    (lower domain) (now + lifetimeOr lifetime)
  have hrun : s.allocate lower domain lifetime now = some r := by
    unfold allocate
    rw [if_neg hd, hr]
  have hlive : ∀ {ip e}, s.ipToEntry.get ip = some e → e.live now = true →
      (s.cleanupExpiredLocked now).ipToEntry.get ip = some e := fun he hl =>
    (hf.unmoved.byIP _ _ hl).mpr he
  refine ⟨r.1, r.2, hrun, ?_⟩
  cases ho with
  | @refreshed e he =>
    rw [hf.byDomain, Option.filter_eq_some_iff] at he
    refine ⟨⟨fun h => (nomatch h), fun h => ?_⟩, fun h => (nomatch h), fun _ => ⟨e.ip, rfl, ?_⟩⟩
    · rw [h.new e he.1] at he
      exact absurd he.2 Bool.false_ne_true
    · intro x hx _
      obtain ⟨hdom, hip⟩ := hs.paired.forth he.1
      rw [hip] at hx
      exact (Option.some.inj hx) ▸ hdom
  | @fresh k a hnew h1 h2 ha hfree =>
    have hcontains : s.pfx.contains a = true ∧ a.val ≠ s.pfx.base := by
      rw [hf.pfx] at h2 ha
      unfold first at h1
      rw [hf.pfx] at h1
      have hb := s.pfx.base_le
      refine ⟨(Pfx.contains_nth ha).mpr ⟨by omega, h2⟩, ?_⟩
      rw [Pfx.nth_val ha]
      omega
    refine ⟨⟨fun h => (nomatch h), fun h => ?_⟩, fun h => (nomatch h), fun _ => ⟨a.text, rfl, ?_⟩⟩
    · obtain ⟨e, he, hl, -⟩ := h.full a hcontains.1 hcontains.2
      rw [hlive he hl] at hfree
      cases hfree
    · intro x hx hl
      rw [hlive hx hl] at hfree
      cases hfree
  | exhausted hnew =>
    have hfull := allocateLocked_full hwf hr
    refine ⟨iff_of_true rfl ⟨fun e he => ?_, fun a hc hne => ?_⟩, fun _ => hf.unmoved,
      fun h => absurd rfl h⟩
    · by_contra hl
      rw [Bool.not_eq_false] at hl
      rw [(hf.unmoved.byDomain _ _ hl).mpr he] at hnew
      cases hnew
    · obtain ⟨hnth, hlo, hhi⟩ := nth_of_contains hc
      have hk : (s.cleanupExpiredLocked now).first ≤ a.val := by
        unfold first
        rw [hf.pfx]
        omega
      obtain ⟨e, he⟩ := hfull a.val hk (by rw [hf.pfx]; exact hhi)
      rw [hf.pfx, hnth, hf.byIP, Option.filter_eq_some_iff] at he
      refine ⟨e, he.1, he.2, fun hdom => ?_⟩
      have hown := (hs.paired.back he.1).2
      rw [hdom] at hown
      rw [(hf.unmoved.byDomain _ _ he.2).mpr hown] at hnew
      cases hnew

end FakeIPStore

/-- **`Allocate` always ends, and fails exactly when there is nothing left**: over every block of at
least two addresses that is written with its network address and does not reach the top of the address
space, and from every state that calls can reach. -/
theorem allocate_exhausts (lower : Bytes → Bytes) (hlower : ∀ d, d ≠ [] → lower d ≠ []) {cidr : Bytes}
    {s : FakeIPStore} (hnew : mustNewFakeIPStore cidr = .ok s) (hbase : s.pfx.addr.val = s.pfx.base)
    (htwo : 1 ≤ s.pfx.hostBits) (htop : s.pfx.stop < 2 ^ s.pfx.addr.bitLen) (calls : List Call) :
    ∃ s1, Call.run lower calls s = some s1 ∧ ∀ domain lifetime now, domain ≠ [] →
      ∃ r s2, s1.allocate lower domain lifetime now = some (r, s2) ∧
        s1.Settled (lower domain) now r s2 := by
  have hlast : s.pfx.addr.val + 1 < s.pfx.stop := by
    have hpow : 2 ^ 1 ≤ 2 ^ s.pfx.hostBits := Nat.pow_le_pow_right (by decide) htwo
    have hstop : s.pfx.stop = s.pfx.base + 2 ^ s.pfx.hostBits := rfl
    omega
  obtain ⟨s1, hrun, hs, hp⟩ := run_wf calls (mustNew_wf hnew ⟨hlast, htop⟩)
  refine ⟨s1, hrun, fun domain lifetime now hd => ?_⟩
  exact allocate_settled hs (by rw [hp]; exact hbase) (hlower domain hd) lifetime now

theorem allocate_exhausts_ipv4 :
    ((Call.run id [.allocate (lit "a.example") 0 0, .lookupDomain (lit "198.18.0.1") 1]
      defaultFakeIPv4Store).bind fun s => s.allocate id (lit "b.example") 0 2).isSome = true := by
  obtain ⟨s1, h1, h⟩ := allocate_exhausts id (fun d hd => hd) defaultFakeIPv4Store_new
    (by decide +kernel) (by decide +kernel) (by decide +kernel)
    [.allocate (lit "a.example") 0 0, .lookupDomain (lit "198.18.0.1") 1]
  obtain ⟨r, s2, h2, -⟩ := h (lit "b.example") 0 2 (by decide +kernel)
  rw [h1, Option.bind_some, h2]
  rfl

def lateStore : FakeIPStore := newFakeIPStore ⟨.v4 0x0a000006, 29, rfl, by decide⟩

/-- the second domain gets nothing, though only one address is held -/
theorem allocate_exhausts_early :
    mustNewFakeIPStore (lit "10.0.0.6/29") = .ok lateStore ∧
    (Call.run id [.allocate (lit "a.example") 0 0] lateStore).map
      (fun s => s.ipToEntry.get (lit "10.0.0.1")) = some none ∧
    ((Call.run id [.allocate (lit "a.example") 0 0] lateStore).bind
      fun s => s.allocate id (lit "b.example") 0 1).map (·.1) = some (.error exhaustedMsg) := by
  refine ⟨mustNew_eq_ok.mpr ⟨_, by decide +kernel, rfl⟩, by decide +kernel, by decide +kernel⟩

end Bill
