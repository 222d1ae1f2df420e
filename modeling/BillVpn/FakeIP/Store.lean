import BillVpn.Go.NetipText
import BillVpn.Go.Map

/-!
# The store of fake addresses

`fakeIPStore` hands out the addresses of a block, one per domain, and takes them back when they
expire.  The entries stand in two maps, by domain and by address; a cursor remembers where the
search for a free address stopped and wraps at the end of the block.

* `FakeIPStore.allocate`, `lookupDomain`   as in the source (`none`: the search never ends);
* `FakeIPStore.WF`                         the invariant, with the one fact the search rests on: a
                                           cursor at the first address means an empty store;
* `allocateLoop_spec`                      the search ends, with a free address or none left;
* `allocate_outcome`                       what one allocation does.
-/

set_option linter.unusedVariables false

namespace Bill
open Go

/-! ## the code -/

def vpnTunnelIPv6Addr : Bytes := lit "fd66:6c75:6d69::1"
def fakeIPv4CIDR : Bytes := lit "198.18.0.0/15"
def fakeIPv6CIDR : Bytes := lit "fd66:6c75:6d69:100::/56"
def defaultFakeTTL : Nat := 60

/-- `time.Second`; instants and durations are in nanoseconds -/
def second : Int := 10 ^ 9

structure FakeIPEntry where
  domain : Bytes
  ip : Bytes
  expiresAt : Int
deriving DecidableEq

structure FakeIPStore where
  pfx : Pfx
  next : Option Addr
  domainToEntry : GoMap Bytes FakeIPEntry := ∅
  ipToEntry : GoMap Bytes FakeIPEntry := ∅

def newFakeIPStore (p : Pfx) : FakeIPStore := { pfx := p, next := p.addr.next }

/-- `netip.MustParsePrefix` panics on a malformed block -/
def mustNewFakeIPStore (cidr : Bytes) : Res FakeIPStore :=
  match parsePfx cidr with
  | none => .panic
  | some p => .ok (newFakeIPStore p)

theorem mustNew_eq_ok {cidr : Bytes} {s : FakeIPStore} :
    mustNewFakeIPStore cidr = .ok s ↔ ∃ p, parsePfx cidr = some p ∧ newFakeIPStore p = s := by
  unfold mustNewFakeIPStore
  cases parsePfx cidr with
  | none => simp
  | some p => simp

/-- `entry.expiresAt.After(now)` -/
def FakeIPEntry.live (now : Int) (e : FakeIPEntry) : Bool := now < e.expiresAt

namespace FakeIPStore

/-- `delete(m, key)` if the entry there passes the test -/
def delIf (m : GoMap Bytes FakeIPEntry) (key : Bytes) (same : FakeIPEntry → Bool) :
    GoMap Bytes FakeIPEntry :=
  match m.get key with
  | some current => if same current then m.del key else m
  | none => m

def deleteEntryLocked (s : FakeIPStore) (entry : FakeIPEntry) : FakeIPStore :=
  { s with
    domainToEntry := delIf s.domainToEntry entry.domain fun current => current.ip == entry.ip
    ipToEntry := delIf s.ipToEntry entry.ip fun current => current.domain == entry.domain }

/-- the body of the clean-up loop -/
def expireStep (now : Int) (s : FakeIPStore) (entry : FakeIPEntry) : FakeIPStore :=
  if entry.live now then s else s.deleteEntryLocked entry

def cleanupExpiredLocked (s : FakeIPStore) (now : Int) : FakeIPStore :=
  s.domainToEntry.values.foldl (expireStep now) s

def put (s : FakeIPStore) (domain ip : Bytes) (entry : FakeIPEntry) : FakeIPStore :=
  { s with
    domainToEntry := s.domainToEntry.set domain entry
    ipToEntry := s.ipToEntry.set ip entry }

/-- `candidate.String()` -/
def addrText : Option Addr → Bytes
  | some a => a.text
  | none => lit "invalid IP"

/-- the end of the search: the address is the domain's from now on -/
def claim (s : FakeIPStore) (domain : Bytes) (expiresAt : Int) (candidate : Option Addr) :
    FakeIPStore :=
  { s.put domain (addrText candidate) ⟨domain, addrText candidate, expiresAt⟩ with
    next := candidate.bind Addr.next }

/-- The search for a free address, from `candidate` on; `start` is where it began.  Only after a
step to the next address is it compared with `start`, not after the wrap. -/
def allocateLoop (s : FakeIPStore) (domain : Bytes) (now expiresAt : Int) (start : Option Addr) :
    Nat → Option Addr → Option (Except String Bytes × FakeIPStore)
  | 0, _ => none
  | fuel + 1, candidate =>
    let candidate := if s.pfx.containsOpt candidate then candidate else s.pfx.addr.next
    let ip := addrText candidate
    match s.ipToEntry.get ip with
    | some entry =>
      if entry.live now then
        let candidate := candidate.bind Addr.next
        if candidate = start then some (.error "fake ip pool exhausted", s)
        else allocateLoop s domain now expiresAt start fuel candidate
      else some (.ok ip, (s.deleteEntryLocked entry).claim domain expiresAt candidate)
    | none => some (.ok ip, s.claim domain expiresAt candidate)

/-- `Allocate` after the clean-up: an entry of the domain is refreshed -/
def allocateLocked (s : FakeIPStore) (domain : Bytes) (now expiresAt : Int) :
    Option (Except String Bytes × FakeIPStore) :=
  match s.domainToEntry.get domain with
  | some entry => some (.ok entry.ip, s.put domain entry.ip { entry with expiresAt := expiresAt })
  | none => s.allocateLoop domain now expiresAt s.next (2 ^ s.pfx.hostBits) s.next

def lifetimeOr (lifetime : Int) : Int := if lifetime ≤ 0 then defaultFakeTTL * second else lifetime

def allocate (lower : Bytes → Bytes) (domain : Bytes) (lifetime now : Int) (s : FakeIPStore) :
    Option (Except String Bytes × FakeIPStore) :=
  if lower domain = [] then some (.error "domain is empty", s)
  else (s.cleanupExpiredLocked now).allocateLocked (lower domain) now (now + lifetimeOr lifetime)

def lookupDomain (ip : Bytes) (now : Int) (s : FakeIPStore) : Option Bytes × FakeIPStore :=
  match s.ipToEntry.get ip with
  | none => (none, s)
  | some entry =>
    if entry.live now then (some entry.domain, s) else (none, s.deleteEntryLocked entry)

end FakeIPStore

namespace FakeIPStore

/-! ## deletion and clean-up drop the same entries from both maps -/

/-- `s'` is `s` without the entries that fail the test -/
structure Filtered (q : FakeIPEntry → Bool) (s s' : FakeIPStore) : Prop where
  pfx : s'.pfx = s.pfx
  next : s'.next = s.next
  byDomain : ∀ d, s'.domainToEntry.get d = (s.domainToEntry.get d).filter q
  byIP : ∀ ip, s'.ipToEntry.get ip = (s.ipToEntry.get ip).filter q

/-- the entries of `s` are in both of its maps -/
abbrev Paired (s : FakeIPStore) : Prop :=
  Inverse FakeIPEntry.domain FakeIPEntry.ip s.domainToEntry s.ipToEntry

variable {s s' : FakeIPStore} {q : FakeIPEntry → Bool} {now : Int}

theorem Filtered.paired (h : Filtered q s s') (hs : s.Paired) : s'.Paired :=
  hs.filter h.byDomain h.byIP

theorem Filtered.refl (s : FakeIPStore) : Filtered (fun _ => true) s s :=
  ⟨rfl, rfl, fun d => (filter_self fun _ _ => rfl).symm, fun ip => (filter_self fun _ _ => rfl).symm⟩

theorem Filtered.trans {q' : FakeIPEntry → Bool} {s'' : FakeIPStore} (h : Filtered q s s')
    (h' : Filtered q' s' s'') : Filtered (fun e => q e && q' e) s s'' where
  pfx := h'.pfx.trans h.pfx
  next := h'.next.trans h.next
  byDomain d := by rw [h'.byDomain, h.byDomain, Option.filter_filter]
  byIP ip := by rw [h'.byIP, h.byIP, Option.filter_filter]

theorem get_delIf (m : GoMap Bytes FakeIPEntry) (key j : Bytes) (same : FakeIPEntry → Bool) :
    (delIf m key same).get j = if j = key then (m.get j).filter (fun e => !same e) else m.get j := by
  unfold delIf
  by_cases hj : j = key
  · rw [if_pos hj, hj]
    cases hm : m.get key with
    | none => exact hm
    | some e =>
      cases hs : same e with
      | true => simp [hs, GoMap.get_del, Option.filter_some]
      | false => simp [hs, hm, Option.filter_some]
  · rw [if_neg hj]
    cases hm : m.get key with
    | none => rfl
    | some e =>
      cases hs : same e with
      | true => simp [hs, GoMap.get_del, hj]
      | false => simp [hs]

/-- what `deleteEntryLocked entry` keeps -/
def differs (entry e : FakeIPEntry) : Bool := !(e.domain == entry.domain && e.ip == entry.ip)

theorem deleteEntryLocked_filtered (hs : s.Paired) (entry : FakeIPEntry) :
    Filtered (differs entry) s (s.deleteEntryLocked entry) where
  pfx := rfl
  next := rfl
  byDomain d := by
    show (delIf _ _ _).get d = _
    rw [get_delIf]
    by_cases hd : d = entry.domain
    · rw [if_pos hd]
      refine filter_congr fun e he => ?_
      rw [differs, (hs.forth he).1, hd]
      simp
    · rw [if_neg hd]
      refine (filter_self fun e he => ?_).symm
      simp [differs, (hs.forth he).1, hd]
  byIP ip := by
    show (delIf _ _ _).get ip = _
    rw [get_delIf]
    by_cases hi : ip = entry.ip
    · rw [if_pos hi]
      refine filter_congr fun e he => ?_
      rw [differs, (hs.back he).1, hi]
      simp
    · rw [if_neg hi]
      refine (filter_self fun e he => ?_).symm
      simp [differs, (hs.back he).1, hi]

/-- what the clean-up loop keeps after the entries of `l` -/
def outlives (now : Int) (l : List FakeIPEntry) (e : FakeIPEntry) : Bool :=
  l.all fun x => x.live now || differs x e

theorem foldl_expireStep (now : Int) (l : List FakeIPEntry) :
    ∀ {s : FakeIPStore}, s.Paired → Filtered (outlives now l) s (l.foldl (expireStep now) s) := by
  induction l with
  | nil =>
    intro s hs
    exact Filtered.refl s
  | cons x l ih =>
    intro s hs
    have hx : Filtered (fun e => x.live now || differs x e) s (expireStep now s x) := by
      unfold expireStep
      cases hl : x.live now with
      | true => exact Filtered.refl s
      | false => simpa using deleteEntryLocked_filtered hs x
    exact hx.trans (ih (hx.paired hs))

/-- the clean-up keeps the live entries, in whatever order it visits them -/
theorem cleanup_any_order (hs : s.Paired) {l : List FakeIPEntry}
    (hl : ∀ e, e ∈ l ↔ ∃ d, s.domainToEntry.get d = some e) :
    Filtered (FakeIPEntry.live now) s (l.foldl (expireStep now) s) := by
  have hf := foldl_expireStep now l hs
  have key : ∀ e, s.domainToEntry.get e.domain = some e → outlives now l e = e.live now := by
    intro e he
    rw [Bool.eq_iff_iff]
    unfold outlives
    rw [List.all_eq_true]
    constructor
    · intro h
      simpa [differs] using h e ((hl e).mpr ⟨_, he⟩)
    · intro hlive x hx
      obtain ⟨d, hd⟩ := (hl x).mp hx
      cases hdiff : differs x e with
      | true => simp
      | false =>
        have hdom : e.domain = x.domain := by simp_all [differs]
        rw [hdom, (hs.forth hd).1, hd] at he
        cases he
        simp [hlive]
  refine ⟨hf.pfx, hf.next, fun d => ?_, fun ip => ?_⟩
  · rw [hf.byDomain]
    exact filter_congr fun e he => key e (by rw [(hs.forth he).1]; exact he)
  · rw [hf.byIP]
    exact filter_congr fun e he => key e (hs.back he).2

theorem cleanup_filtered (now : Int) (hs : s.Paired) :
    Filtered (FakeIPEntry.live now) s (s.cleanupExpiredLocked now) :=
  cleanup_any_order hs fun e => GoMap.mem_values

/-! ## the search -/

/-- the number of the first address that is handed out: the one after the address of the block as
it is written -/
def first (s : FakeIPStore) : Nat := s.pfx.addr.val + 1

/-- the block goes on behind its written address, and does not reach the top of the address space -/
structure Roomy (p : Pfx) : Prop where
  last : p.addr.val + 1 < p.stop
  top : p.stop < 2 ^ p.addr.bitLen

/-- how often the search goes on before it is back at number `j` -/
def ahead (s : FakeIPStore) (j c : Nat) : Nat :=
  if c < j then j - c else s.pfx.stop - c + (j - s.first)

theorem containsOpt_nth (hr : Roomy s.pfx) {c : Nat} (h1 : s.first ≤ c) (h2 : c ≤ s.pfx.stop) :
    s.pfx.containsOpt (s.pfx.nth c) = decide (c < s.pfx.stop) := by
  obtain ⟨a, ha⟩ := Pfx.nth_isSome (Nat.lt_of_le_of_lt h2 hr.top)
  have hbase := s.pfx.base_le
  rw [ha, Bool.eq_iff_iff]
  show s.pfx.contains a = true ↔ _
  rw [Pfx.contains_nth ha, decide_eq_true_iff]
  unfold first at h1
  exact ⟨fun h => h.2, fun h => ⟨by omega, h⟩⟩

theorem candidate_eq (hr : Roomy s.pfx) {c : Nat} (h1 : s.first ≤ c) (h2 : c ≤ s.pfx.stop) :
    (if s.pfx.containsOpt (s.pfx.nth c) then s.pfx.nth c else s.pfx.addr.next) =
      s.pfx.nth (if c < s.pfx.stop then c else s.first) := by
  rw [containsOpt_nth hr h1 h2]
  by_cases hc : c < s.pfx.stop
  · rw [if_pos hc, if_pos (decide_eq_true hc)]
  · rw [if_neg hc, if_neg (by simpa using hc)]
    rfl

/-- **The search ends.**  From a cursor `j` that is past the first address, or in an empty store, it
finds a free address or has seen them all. -/
theorem allocateLoop_spec (hr : Roomy s.pfx) {domain : Bytes} {expiresAt : Int}
    (hlive : ∀ ip e, s.ipToEntry.get ip = some e → e.live now = true)
    {j : Nat} (hj1 : s.first ≤ j) (hj2 : j ≤ s.pfx.stop)
    (hempty : j = s.first → ∀ ip, s.ipToEntry.get ip = none) (fuel : Nat) :
    ∀ c, s.first ≤ c → c ≤ s.pfx.stop → s.ahead j c < fuel →
    s.allocateLoop domain now expiresAt (s.pfx.nth j) fuel (s.pfx.nth c) =
        some (.error "fake ip pool exhausted", s) ∨
      ∃ k a, s.first ≤ k ∧ k < s.pfx.stop ∧ s.pfx.nth k = some a ∧
        s.ipToEntry.get a.text = none ∧
        s.allocateLoop domain now expiresAt (s.pfx.nth j) fuel (s.pfx.nth c) =
          some (.ok a.text, s.claim domain expiresAt (s.pfx.nth k)) := by
  induction fuel with
  | zero => intro c h1 h2 hf; exact absurd hf (Nat.not_lt_zero _)
  | succ fuel ih =>
    intro c h1 h2 hf
    have hfirst : s.first < s.pfx.stop := hr.last
    -- `k` is the number that this round looks at
    obtain ⟨k, hk⟩ : ∃ k, k = if c < s.pfx.stop then c else s.first := ⟨_, rfl⟩
    have hk1 : s.first ≤ k := by split_ifs at hk <;> omega
    have hk2 : k < s.pfx.stop := by split_ifs at hk <;> omega
    have htop := hr.top
    obtain ⟨a, ha⟩ := Pfx.nth_isSome (p := s.pfx) (k := k) (by omega)
    rw [allocateLoop]
    dsimp only
    rw [candidate_eq hr h1 h2, ← hk, show addrText (s.pfx.nth k) = a.text by rw [ha]; rfl]
    cases hg : s.ipToEntry.get a.text with
    | none => exact Or.inr ⟨k, a, hk1, hk2, ha, hg, rfl⟩
    | some e =>
      dsimp only
      rw [if_pos (hlive _ _ hg), Pfx.nth_bind_next (by omega)]
      by_cases hend : s.pfx.nth (k + 1) = s.pfx.nth j
      · rw [if_pos hend]
        exact Or.inl rfl
      · rw [if_neg hend]
        have hne : k + 1 ≠ j := fun h => hend (by rw [h])
        have hj : j ≠ s.first := fun h => by rw [hempty h] at hg; cases hg
        refine ih (k + 1) (by omega) (by omega) ?_
        unfold ahead at hf ⊢
        split_ifs at hf hk ⊢ <;> omega

/-! ## the invariant -/

structure WF (s : FakeIPStore) : Prop where
  roomy : Roomy s.pfx
  paired : s.Paired
  named : ∀ {d e}, s.domainToEntry.get d = some e → d ≠ []
  held : ∀ {ip e}, s.ipToEntry.get ip = some e →
    ∃ k a, s.first ≤ k ∧ k < s.pfx.stop ∧ s.pfx.nth k = some a ∧ a.text = ip
  cursor : ∃ j, s.next = s.pfx.nth j ∧ s.first ≤ j ∧ j ≤ s.pfx.stop ∧
    (j = s.first → ∀ ip, s.ipToEntry.get ip = none)

theorem mustNew_wf {cidr : Bytes} (h : mustNewFakeIPStore cidr = .ok s) (hr : Roomy s.pfx) :
    s.WF := by
  obtain ⟨p, -, rfl⟩ := mustNew_eq_ok.mp h
  exact ⟨hr, Inverse.empty, fun h => by simp [newFakeIPStore] at h,
    fun h => by simp [newFakeIPStore] at h,
    ⟨p.addr.val + 1, rfl, Nat.le_refl _, Nat.le_of_lt hr.last, fun _ ip => GoMap.get_empty ip⟩⟩

theorem Filtered.wf (h : Filtered q s s') (hs : s.WF) : s'.WF := by
  have hfirst : s'.first = s.first := by unfold first; rw [h.pfx]
  refine ⟨h.pfx ▸ hs.roomy, h.paired hs.paired, fun hd => ?_, fun hi => ?_, ?_⟩
  · rw [h.byDomain, Option.filter_eq_some_iff] at hd
    exact hs.named hd.1
  · rw [h.byIP, Option.filter_eq_some_iff] at hi
    rw [hfirst, h.pfx]
    exact hs.held hi.1
  · obtain ⟨j, hj, h1, h2, hempty⟩ := hs.cursor
    rw [hfirst, h.pfx, h.next]
    exact ⟨j, hj, h1, h2, fun he ip => by rw [h.byIP, hempty he, Option.filter_none]⟩

/-- what an allocation does to a store without expired entries -/
inductive Allocated (s : FakeIPStore) (domain : Bytes) (expiresAt : Int) :
    Except String Bytes × FakeIPStore → Prop where
  | refreshed {e : FakeIPEntry} (h : s.domainToEntry.get domain = some e) :
      Allocated s domain expiresAt
        (.ok e.ip, s.put domain e.ip { e with expiresAt := expiresAt })
  | fresh {k : Nat} {a : Addr} (hnew : s.domainToEntry.get domain = none) (h1 : s.first ≤ k)
      (h2 : k < s.pfx.stop) (ha : s.pfx.nth k = some a) (hfree : s.ipToEntry.get a.text = none) :
      Allocated s domain expiresAt
        (.ok a.text, { s.put domain a.text ⟨domain, a.text, expiresAt⟩ with next := s.pfx.nth (k + 1) })
  | exhausted (hnew : s.domainToEntry.get domain = none) :
      Allocated s domain expiresAt (.error "fake ip pool exhausted", s)

theorem allocateLocked_outcome (hs : s.WF)
    (hlive : ∀ ip e, s.ipToEntry.get ip = some e → e.live now = true) (domain : Bytes)
    (expiresAt : Int) :
    ∃ r, s.allocateLocked domain now expiresAt = some r ∧ Allocated s domain expiresAt r := by
  unfold allocateLocked
  cases hd : s.domainToEntry.get domain with
  | some e => exact ⟨_, rfl, .refreshed hd⟩
  | none =>
    obtain ⟨j, hj, h1, h2, hempty⟩ := hs.cursor
    have hstop : s.pfx.stop = s.pfx.base + 2 ^ s.pfx.hostBits := rfl
    have hbase := s.pfx.base_le
    have hroom := hs.roomy.last
    have hfuel : s.ahead j j < 2 ^ s.pfx.hostBits := by
      unfold ahead
      unfold first at h1 ⊢
      rw [if_neg (Nat.lt_irrefl j)]
      omega
    rw [hj]
    rcases allocateLoop_spec hs.roomy hlive h1 h2 hempty _ j h1 h2 hfuel with
      hloop | ⟨k, a, hk1, hk2, ha, hfree, hloop⟩
    · exact ⟨_, hloop, .exhausted hd⟩
    · refine ⟨_, hloop, ?_⟩
      have hclaim : s.claim domain expiresAt (s.pfx.nth k) =
          { s.put domain a.text ⟨domain, a.text, expiresAt⟩ with next := s.pfx.nth (k + 1) } := by
        have htop := hs.roomy.top
        unfold claim
        rw [Pfx.nth_bind_next (by omega), ha]
        rfl
      rw [hclaim]
      exact .fresh hd hk1 hk2 ha hfree

variable {domain : Bytes} {expiresAt : Int} {r : Except String Bytes × FakeIPStore}

theorem get_put_domain (s : FakeIPStore) (domain ip d : Bytes) (e : FakeIPEntry) :
    (s.put domain ip e).domainToEntry.get d =
      if d = domain then some e else s.domainToEntry.get d := GoMap.get_set _ _ _ _

theorem get_put_ip (s : FakeIPStore) (domain ip i : Bytes) (e : FakeIPEntry) :
    (s.put domain ip e).ipToEntry.get i = if i = ip then some e else s.ipToEntry.get i :=
  GoMap.get_set _ _ _ _

/-- an entry for an address of the block, put under keys that no other entry has; the cursor has
left the first address -/
theorem WF.put (hs : s.WF) {e : FakeIPEntry} {next : Option Addr} (hne : e.domain ≠ [])
    (hk : ∀ x, s.domainToEntry.get e.domain = some x → x.ip = e.ip)
    (hl : ∀ x, s.ipToEntry.get e.ip = some x → x.domain = e.domain)
    (hheld : ∃ k a, s.first ≤ k ∧ k < s.pfx.stop ∧ s.pfx.nth k = some a ∧ a.text = e.ip)
    (hnext : ∃ j, next = s.pfx.nth j ∧ s.first < j ∧ j ≤ s.pfx.stop) :
    WF { s.put e.domain e.ip e with next := next } where
  roomy := hs.roomy
  paired := hs.paired.set hk hl
  named := by
    intro d x hx
    rw [get_put_domain] at hx
    by_cases hd : d = e.domain
    · exact hd ▸ hne
    · rw [if_neg hd] at hx
      exact hs.named hx
  held := by
    intro ip x hx
    rw [get_put_ip] at hx
    by_cases hi : ip = e.ip
    · exact hi ▸ hheld
    · rw [if_neg hi] at hx
      exact hs.held hx
  cursor := by
    obtain ⟨j, hj, h1, h2⟩ := hnext
    exact ⟨j, hj, Nat.le_of_lt h1, h2, fun he => absurd he (Nat.ne_of_gt h1)⟩

theorem Allocated.wf (h : Allocated s domain expiresAt r) (hs : s.WF) (hne : domain ≠ []) :
    r.2.WF := by
  cases h with
  | @refreshed e hd =>
    obtain ⟨rfl, hip⟩ := hs.paired.forth hd
    obtain ⟨j, hj, h1, h2, hempty⟩ := hs.cursor
    have hj' : j ≠ s.first := fun he => by rw [hempty he] at hip; cases hip
    exact hs.put (e := { e with expiresAt := expiresAt }) hne
      (fun x hx => by rw [hd] at hx; cases hx; rfl) (fun x hx => by rw [hip] at hx; cases hx; rfl)
      (hs.held hip) ⟨j, hj, Nat.lt_of_le_of_ne h1 hj'.symm, h2⟩
  | @fresh k a hnew h1 h2 ha hfree =>
    exact hs.put (e := ⟨domain, a.text, expiresAt⟩) hne
      (fun x hx => by rw [hnew] at hx; cases hx) (fun x hx => by rw [hfree] at hx; cases hx)
      ⟨k, a, h1, h2, ha, rfl⟩ ⟨k + 1, rfl, Nat.lt_succ_of_le h1, h2⟩
  | exhausted hnew => exact hs

theorem Allocated.keeps (h : Allocated s domain expiresAt r) {d : Bytes} {e : FakeIPEntry}
    (he : s.domainToEntry.get d = some e) :
    ∃ e', r.2.domainToEntry.get d = some e' ∧ e'.ip = e.ip ∧
      e'.expiresAt = if d = domain then expiresAt else e.expiresAt := by
  cases h with
  | @refreshed x hx =>
    rw [get_put_domain]
    by_cases hd : d = domain
    · rw [hd, hx] at he
      cases he
      exact ⟨_, if_pos hd, rfl, (if_pos hd).symm⟩
    · exact ⟨e, by rw [if_neg hd, he], rfl, (if_neg hd).symm⟩
  | fresh hnew h1 h2 ha hfree =>
    have hd : d ≠ domain := fun hd => by rw [hd, hnew] at he; cases he
    rw [get_put_domain]
    exact ⟨e, by rw [if_neg hd, he], rfl, (if_neg hd).symm⟩
  | exhausted hnew =>
    have hd : d ≠ domain := fun hd => by rw [hd, hnew] at he; cases he
    exact ⟨e, he, rfl, (if_neg hd).symm⟩

theorem Allocated.entry (h : Allocated s domain expiresAt r) (hs : s.WF) {ip : Bytes}
    (hr : r.1 = .ok ip) : r.2.ipToEntry.get ip = some ⟨domain, ip, expiresAt⟩ := by
  cases h with
  | @refreshed e hd =>
    cases hr
    obtain ⟨hdom, -⟩ := hs.paired.forth hd
    rw [get_put_ip, if_pos rfl, hdom]
  | fresh hnew h1 h2 ha hfree =>
    cases hr
    rw [get_put_ip, if_pos rfl]
  | exhausted hnew => cases hr

/-- **What `Allocate` does**: it always returns. -/
theorem allocate_outcome (hs : s.WF) (lower : Bytes → Bytes) (domain : Bytes) (lifetime : Int) :
    (lower domain = [] ∧ s.allocate lower domain lifetime now = some (.error "domain is empty", s)) ∨
    lower domain ≠ [] ∧ ∃ s1 r, Filtered (FakeIPEntry.live now) s s1 ∧
      s.allocate lower domain lifetime now = some r ∧
      Allocated s1 (lower domain) (now + lifetimeOr lifetime) r := by
  unfold allocate
  by_cases hd : lower domain = []
  · exact Or.inl ⟨hd, if_pos hd⟩
  · have hf := cleanup_filtered now hs.paired
    obtain ⟨r, hr, ho⟩ := allocateLocked_outcome (hf.wf hs)
      (fun ip e he => by rw [hf.byIP, Option.filter_eq_some_iff] at he; exact he.2)
      (lower domain) (now + lifetimeOr lifetime)
    rw [if_neg hd]
    exact Or.inr ⟨hd, _, r, hf, hr, ho⟩

theorem lifetimeOr_pos (lifetime : Int) : 0 < lifetimeOr lifetime := by
  unfold lifetimeOr
  split_ifs with h
  · decide
  · omega

end FakeIPStore

end Bill
