import BillVpn.Config.Pool
import BillVpn.Go.Case
import BillVpn.Go.Rotation
import BillVpn.Go.Run

/-!
# Pools over whole runs

Scans overwrite a part of the best addresses and of their weights; between two scans `Get` hands the
addresses out by the counter.

* `IPPool.Chosen`       the invariant of a pool with the addresses chosen all different;
* `poolRun_chosen`      every run of scans and `Get`s keeps it;
* `get_slot`            `Get` returns the address in the slot of the counter;
* `gets_run`            a sequence of `Get`s, as a list of indexes;
* `pool_rotation`       **over one round of the counter each address comes as often as its weight**.
-/

set_option linter.unusedVariables false

namespace Bill
open Go Proc

/-! ## scans -/

structure IPPool.Chosen (p : IPPool) : Prop where
  wf : p.WF
  distinct : (p.bestIndexes.take p.curValidIPs).Nodup

/-- what a scan may report: addresses of the pool, each once -/
structure ScanOf (ips : List Bytes) (results : List IPResult) : Prop where
  inRange : ∀ r ∈ results, r.ipIndex < ips.length
  distinct : (results.map (·.ipIndex)).Nodup

section
variable {weight : IPResult → Nat} {p : IPPool} {results : List IPResult}

theorem updateBest_ips : (p.updateBest weight results).ips = p.ips := by
  unfold IPPool.updateBest
  split_ifs
  · rfl
  · rfl

theorem updateBest_chosen (hp : p.Chosen) (hr : ScanOf p.ips results) :
    (p.updateBest weight results).Chosen := by
  refine ⟨updateBest_wf hp.wf hr.inRange, ?_⟩
  unfold IPPool.updateBest
  by_cases h0 : results = []
  · rw [if_pos h0]
    exact hp.distinct
  rw [if_neg h0]
  show ((((results.insertionSort IPResult.le).take p.topIPCount).map (·.ipIndex) ++ _).take _).Nodup
  rw [List.take_left' (List.length_map _), List.map_take]
  have hperm := (List.perm_insertionSort IPResult.le results).map (·.ipIndex)
  exact (hperm.nodup_iff.mpr hr.distinct).sublist (List.take_sublist _ _)

theorem updateBest_valid (hp : p.WF) (h : results ≠ []) :
    0 < (p.updateBest weight results).curValidIPs := by
  unfold IPPool.updateBest
  rw [if_neg h]
  show 0 < ((results.insertionSort IPResult.le).take p.topIPCount).length
  have hlen : 0 < results.length := List.length_pos_iff.mpr h
  have htop := hp.top.1
  rw [List.length_take, List.length_insertionSort]
  omega

theorem updateBest_keeps_valid (hp : p.WF) (h : 0 < p.curValidIPs) :
    0 < (p.updateBest weight results).curValidIPs := by
  by_cases h0 : results = []
  · unfold IPPool.updateBest
    rw [if_pos h0]
    exact h
  · exact updateBest_valid hp h0

end

/-! ## `Get` -/

theorem get_state (p : IPPool) :
    (IPPool.get p).2 = p ∨ (IPPool.get p).2 = { p with counter := p.counter + 1 } := by
  unfold IPPool.get
  by_cases h0 : p.curValidIPs = 0
  · rw [if_pos h0]
    exact .inl rfl
  · rw [if_neg h0]
    dsimp only
    right
    by_cases ht : p.totalWeight % 2 ^ 32 = 0
    · rw [if_pos ht]
    · rw [if_neg ht]
      split
      · rfl
      · rfl

theorem IPPool.Chosen.counter {p : IPPool} (hp : p.Chosen) (c : UInt32) : { p with counter := c }.Chosen :=
  ⟨⟨hp.wf.ips, hp.wf.port, hp.wf.top, hp.wf.indexes, hp.wf.weights, hp.wf.valid, hp.wf.total,
    hp.wf.inRange, hp.wf.positive⟩, hp.distinct⟩

def IPPool.weights (p : IPPool) : List Nat := p.bestWeights.take p.curValidIPs

def IPPool.indexes (p : IPPool) : List Nat := p.bestIndexes.take p.curValidIPs

theorem pickWeighted_slot (is ws : List Nat) (hlen : is.length = ws.length) {target acc : Nat}
    (hacc : acc ≤ target) :
    pickWeighted target acc (is.zip ws) = (slotOf (target - acc) ws).bind (is[·]?) := by
  induction ws generalizing is acc with
  | nil =>
    rw [List.zip_nil_right]
    rfl
  | cons w ws ih =>
    cases is with
    | nil => cases hlen
    | cons i is =>
      rw [List.zip_cons_cons, pickWeighted, slotOf]
      by_cases hw : target < acc + w
      · rw [if_pos hw, if_pos (by omega)]
        rfl
      · rw [if_neg hw, if_neg (by omega), ih is (Nat.succ.inj hlen) (by omega),
          show target - (acc + w) = target - acc - w by omega, Option.bind_map]
        rfl

section
variable {p : IPPool}

theorem indexes_length (hp : p.WF) : p.indexes.length = p.curValidIPs := by
  unfold IPPool.indexes
  rw [List.length_take, hp.indexes]
  exact Nat.min_eq_left hp.valid

theorem weights_length (hp : p.WF) : p.weights.length = p.curValidIPs := by
  unfold IPPool.weights
  rw [List.length_take, hp.weights]
  exact Nat.min_eq_left hp.valid

theorem totalWeight_pos (hp : p.WF) (h : 0 < p.curValidIPs) : 0 < p.totalWeight := by
  have hle := List.card_nsmul_le_sum p.weights 1 fun w hw => (hp.positive w hw).1
  rw [weights_length hp, smul_eq_mul, Nat.mul_one] at hle
  have htotal : p.totalWeight = p.weights.sum := hp.total
  omega

theorem totalWeight_lt (hp : p.WF) : p.totalWeight < 2 ^ 32 := by
  have hle := List.sum_le_card_nsmul p.weights 10000 fun w hw => (hp.positive w hw).2
  rw [weights_length hp, smul_eq_mul] at hle
  have htotal : p.totalWeight = p.weights.sum := hp.total
  have hvalid := hp.valid
  have htop := hp.top.2
  omega

/-- **`Get` returns the address in the slot of the counter** -/
theorem get_slot (hp : p.WF) (h : 0 < p.curValidIPs) :
    ∃ slot i, slotOf (p.counter.toNat % p.totalWeight) p.weights = some slot ∧
      p.indexes[slot]? = some i ∧ i < p.ips.length ∧
      IPPool.get p = (.ok (p.ips.getD i []), { p with counter := p.counter + 1 }) := by
  have hpos := totalWeight_pos hp h
  have hmod : p.totalWeight % 2 ^ 32 = p.totalWeight := Nat.mod_eq_of_lt (totalWeight_lt hp)
  have htotal : p.totalWeight = p.weights.sum := hp.total
  obtain ⟨slot, hslot, hlt⟩ := slotOf_isSome p.weights
    (p.counter.toNat % p.totalWeight) (by rw [← htotal]; exact Nat.mod_lt _ hpos)
  rw [weights_length hp, ← indexes_length hp] at hlt
  have hget : p.indexes[slot]? = some p.indexes[slot] := List.getElem?_eq_getElem hlt
  have hin : p.indexes[slot] < p.ips.length := hp.inRange _ (List.getElem_mem hlt)
  refine ⟨slot, p.indexes[slot], hslot, hget, hin, ?_⟩
  have hpick := pickWeighted_slot p.indexes p.weights
    (by rw [indexes_length hp, weights_length hp]) (Nat.zero_le (p.counter.toNat % p.totalWeight))
  rw [Nat.sub_zero, hslot, Option.bind_some, hget] at hpick
  change pickWeighted _ 0 ((p.bestIndexes.take p.curValidIPs).zip
    (p.bestWeights.take p.curValidIPs)) = _ at hpick
  unfold IPPool.get
  rw [if_neg (by omega)]
  dsimp only
  rw [hmod, if_neg (by omega), hpick]
  show (idx p.ips ↑(p.indexes[slot]), _) = _
  rw [idx_nat hin, List.getD_eq_getElem?_getD, List.getElem?_eq_getElem hin]
  rfl

end

/-! ## one round -/

/-- that many calls of `Get` -/
def IPPool.gets : Nat → Proc IPPool (List Bytes)
  | 0 => pure []
  | n + 1 => do
    let ip ← IPPool.get
    let rest ← IPPool.gets n
    pure (ip :: rest)

/-- the index that a value of the counter picks -/
def IPPool.pickAt (p : IPPool) (current : Nat) : Nat :=
  ((slotOf (current % p.totalWeight) p.weights).bind (p.indexes[·]?)).getD 0

section
variable {p : IPPool}

theorem get_pickAt (hp : p.WF) (h : 0 < p.curValidIPs) :
    IPPool.get p = (.ok (p.ips.getD (p.pickAt p.counter.toNat) []), { p with counter := p.counter + 1 }) := by
  obtain ⟨slot, i, hslot, hi, _, hget⟩ := get_slot hp h
  have hpick : p.pickAt p.counter.toNat = i := by
    unfold IPPool.pickAt
    rw [hslot, Option.bind_some, hi]
    rfl
  rw [hget, hpick]

theorem gets_run (n : Nat) (hp : p.Chosen) (h : 0 < p.curValidIPs) (hwrap : p.counter.toNat + n ≤ 2 ^ 32) :
    (IPPool.gets n p).1 =
      .ok (((List.range n).map fun k => p.pickAt (p.counter.toNat + k)).map (p.ips.getD · [])) := by
  induction n generalizing p with
  | zero => rfl
  | succ n ih =>
    have hrest : (IPPool.gets n { p with counter := p.counter + 1 }).1 =
        .ok (((List.range n).map fun k => p.pickAt (p.counter.toNat + (k + 1))).map (p.ips.getD · [])) := by
      by_cases hn : n = 0
      · rw [hn]
        rfl
      · have hnext : (p.counter + 1).toNat = p.counter.toNat + 1 := by
          rw [UInt32.toNat_add]
          exact Nat.mod_eq_of_lt (by show p.counter.toNat + 1 < 2 ^ 32; omega)
        rw [ih (hp.counter (p.counter + 1)) h (by show (p.counter + 1).toNat + n ≤ 2 ^ 32; omega)]
        show Res.ok (((List.range n).map fun k => p.pickAt ((p.counter + 1).toNat + k)).map _) = _
        simp only [hnext, Nat.add_assoc, Nat.add_comm 1]
    have hlist : ((List.range (n + 1)).map fun k => p.pickAt (p.counter.toNat + k)) =
        p.pickAt p.counter.toNat :: (List.range n).map fun k => p.pickAt (p.counter.toNat + (k + 1)) := by
      rw [List.range_succ_eq_map, List.map_cons, List.map_map]
      rfl
    rw [hlist, List.map_cons, IPPool.gets, run_bind_ok (get_pickAt hp.wf h),
      run_bind_ok (Prod.ext hrest rfl)]
    rfl

theorem pickAt_iff (hp : p.Chosen) (h : 0 < p.curValidIPs) {i : Nat} (hi : i < p.curValidIPs) (c : Nat) :
    p.pickAt c = p.bestIndexes.getD i 0 ↔ slotOf (c % p.weights.sum) p.weights = some i := by
  have htotal : p.totalWeight = p.weights.sum := hp.wf.total
  have hpos := totalWeight_pos hp.wf h
  obtain ⟨slot, hslot, hlt⟩ := slotOf_isSome p.weights (c % p.weights.sum)
    (Nat.mod_lt _ (by omega))
  rw [weights_length hp.wf] at hlt
  rw [← indexes_length hp.wf] at hlt
  have hlen : i < p.indexes.length := by
    rw [indexes_length hp.wf]
    exact hi
  have hbest : p.bestIndexes.getD i 0 = p.indexes[i] := by
    have hi' : i < p.bestIndexes.length := by
      have := hp.wf.valid
      rw [hp.wf.indexes]
      omega
    rw [List.getD_eq_getElem?_getD, List.getElem?_eq_getElem hi', Option.getD_some]
    exact (List.getElem_take ..).symm
  have hpick : p.pickAt c = p.indexes[slot] := by
    unfold IPPool.pickAt
    rw [htotal, hslot, Option.bind_some, List.getElem?_eq_getElem hlt, Option.getD_some]
  have hnodup : p.indexes.Nodup := hp.distinct
  rw [hpick, hbest, hslot, hnodup.getElem_inj_iff, Option.some_inj]

/-- what a pool promises between two scans -/
structure IPPool.Rotates (p : IPPool) : Prop where
  valid : p.curValidIPs ≤ p.topIPCount
  total : p.totalWeight = (p.bestWeights.take p.curValidIPs).sum
  distinct : (p.bestIndexes.take p.curValidIPs).Nodup
  inRange : ∀ i ∈ p.bestIndexes.take p.curValidIPs, i < p.ips.length
  safe : (IPPool.get p).1 ≠ .panic
  fair : 0 < p.curValidIPs → p.counter.toNat + p.totalWeight ≤ 2 ^ 32 →
    ∃ picks : List Nat, picks.length = p.totalWeight ∧
      (IPPool.gets p.totalWeight p).1 = .ok (picks.map (p.ips.getD · [])) ∧
      ∀ i < p.curValidIPs, picks.count (p.bestIndexes.getD i 0) = p.bestWeights.getD i 0

theorem IPPool.Chosen.rotates (hp : p.Chosen) : p.Rotates := by
  refine ⟨hp.wf.valid, hp.wf.total, hp.distinct, hp.wf.inRange, ?_, fun h hwrap => ?_⟩
  · by_cases h0 : p.curValidIPs = 0
    · unfold IPPool.get
      rw [if_pos h0]
      exact fun hc => nomatch hc
    · rw [get_pickAt hp.wf (by omega)]
      exact fun hc => nomatch hc
  · refine ⟨_, ?_, gets_run p.totalWeight hp h hwrap, fun i hi => ?_⟩
    · rw [List.length_map, List.length_range]
    · have htotal : p.totalWeight = p.weights.sum := hp.wf.total
      have hw : p.bestWeights.getD i 0 = p.weights.getD i 0 := by
        unfold IPPool.weights
        rw [List.getD_eq_getElem?_getD, List.getD_eq_getElem?_getD, List.getElem?_take_of_lt hi]
      rw [count_map_range, hw, ← rotation_count p.weights p.counter.toNat i, htotal]
      exact count_congr fun k _ => pickAt_iff hp h hi (p.counter.toNat + k)

end

/-! ## runs -/

inductive PoolEvent where
  | scan (weight : IPResult → Nat) (results : List IPResult)
  | get

def poolStep : PoolEvent → IPPool → IPPool
  | .scan weight results, p => p.updateBest weight results
  | .get, p => (IPPool.get p).2

/-- scans of the pool with these addresses -/
def PoolEvent.Of (ips : List Bytes) : PoolEvent → Prop
  | .scan _ results => ScanOf ips results
  | .get => True

/-- a scan that found an address -/
def PoolEvent.Succeeds : PoolEvent → Prop
  | .scan _ results => results ≠ []
  | .get => False

theorem poolStep_ips (e : PoolEvent) (p : IPPool) : (poolStep e p).ips = p.ips := by
  cases e with
  | scan weight results => exact updateBest_ips
  | get =>
    show (IPPool.get p).2.ips = p.ips
    rcases get_state p with h | h
    · rw [h]
    · rw [h]

theorem poolStep_chosen {e : PoolEvent} {p : IPPool} (hp : p.Chosen) (he : e.Of p.ips) :
    (poolStep e p).Chosen := by
  cases e with
  | scan weight results => exact updateBest_chosen hp he
  | get =>
    show (IPPool.get p).2.Chosen
    rcases get_state p with h | h
    · rw [h]
      exact hp
    · rw [h]
      exact hp.counter _

theorem poolStep_valid {e : PoolEvent} {p : IPPool} (hp : p.Chosen) (h : 0 < p.curValidIPs ∨ e.Succeeds) :
    0 < (poolStep e p).curValidIPs := by
  cases e with
  | scan weight results =>
    rcases h with h | h
    · exact updateBest_keeps_valid hp.wf h
    · exact updateBest_valid hp.wf h
  | get =>
    show 0 < (IPPool.get p).2.curValidIPs
    have h := h.resolve_right id
    rcases get_state p with hs | hs
    · rw [hs]
      exact h
    · rw [hs]
      exact h

theorem poolRun_chosen {es : List PoolEvent} {p : IPPool} (hp : p.Chosen) (hes : ∀ e ∈ es, e.Of p.ips) :
    (runAll poolStep es p).Chosen ∧
      ((0 < p.curValidIPs ∨ ∃ e ∈ es, e.Succeeds) → 0 < (runAll poolStep es p).curValidIPs) := by
  induction es generalizing p with
  | nil => exact ⟨hp, fun h => h.elim id fun ⟨e, he, _⟩ => nomatch he⟩
  | cons e es ih =>
    have hstep := poolStep_chosen hp (hes e List.mem_cons_self)
    have hrun := ih hstep fun e' he' => by
      rw [poolStep_ips]
      exact hes e' (List.mem_cons_of_mem _ he')
    refine ⟨hrun.1, fun h => hrun.2 ?_⟩
    rcases h with h | ⟨e', he', hs⟩
    · exact .inl (poolStep_valid hp (.inl h))
    · rcases List.mem_cons.mp he' with rfl | he'
      · exact .inl (poolStep_valid hp (.inr hs))
      · exact .inr ⟨e', he', hs⟩

/-- **After every run of scans and `Get`s the pool is in order, and the next round is fair.** -/
theorem pool_rotation {std : Std} {j : Json} {p : IPPool} (hload : unmarshalIPPool std j = .ok p)
    (es : List PoolEvent) (hes : ∀ e ∈ es, e.Of p.ips) :
    (runAll poolStep es p).Rotates ∧
      ((∃ e ∈ es, e.Succeeds) → 0 < (runAll poolStep es p).curValidIPs) := by
  obtain ⟨hwf, hvalid⟩ := unmarshalIPPool_wf hload
  have hstart : p.Chosen := ⟨hwf, by rw [hvalid]; exact List.nodup_nil⟩
  obtain ⟨hrun, hsome⟩ := poolRun_chosen hstart hes
  exact ⟨hrun.rotates, fun h => hsome (.inr h)⟩

/-- a pool of two addresses -/
def pairJSON : Json :=
  .obj [(lit "ips", .arr [.str (lit "192.0.2.7"), .str (lit "192.0.2.8")]), (lit "port", .num (lit "443"))]

def pairPool : IPPool :=
  { ips := [lit "192.0.2.7", lit "192.0.2.8"], port := 443, topIPCount := 3, attempts := 4,
    timeout := 10 ^ 9, updateInterval := 30 * 60 * 10 ^ 9, concurrency := 100,
    bestIndexes := [0, 0, 0], bestWeights := [0, 0, 0] }

/-- a scan in which both answer, and a call of `Get` -/
def pairRun : List PoolEvent := [.scan (fun r => 3 - r.ipIndex) [⟨1, 20, 0⟩, ⟨0, 10, 0⟩], .get]

theorem pool_rotation_pair :
    (runAll poolStep pairRun pairPool).Rotates ∧
      ((∃ e ∈ pairRun, e.Succeeds) → 0 < (runAll poolStep pairRun pairPool).curValidIPs) := by
  have hscan : ScanOf pairPool.ips [⟨1, 20, 0⟩, ⟨0, 10, 0⟩] := ⟨by decide, by decide⟩
  have hload : unmarshalIPPool asciiStd pairJSON = .ok pairPool := by decide +kernel
  refine pool_rotation hload pairRun fun e he => ?_
  rcases List.mem_cons.mp he with rfl | he
  · exact hscan
  · rw [List.mem_singleton.mp he]
    trivial

example : (IPPool.gets 5 (runAll poolStep pairRun pairPool)).1 =
    .ok [lit "192.0.2.7", lit "192.0.2.7", lit "192.0.2.8", lit "192.0.2.8", lit "192.0.2.7"] := by
  decide +kernel

end Bill
