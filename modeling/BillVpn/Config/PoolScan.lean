import BillVpn.Config.PoolRuns
import BillVpn.Go.Crew
import Mathlib.Data.Prod.Lex

/-!
# A scan and its goroutines

`scan` starts one goroutine for each address of the pool.  At most `max_concurrency` of them dial at
a time; each reports the mean latency and the loss of its attempts, in the order in which they
finish, and `updateBest` ranks the reports.

* `testIP`            the attempts on one address;
* `scanJob`           the same attempt by attempt, for `Crew`;
* `updateBest_perm`   the order of the reports decides between equal measurements only;
* `scan_schedules`    **at most `max_concurrency` dials at a time, and every scan ends**;
* `scan_outcome`      **however the goroutines are scheduled, the scan gives the same ranking**.

What a dial gives is a parameter: `dial i k` is the time the attempt `k` on the address `i` took to
connect, if it did.
-/

set_option linter.unusedVariables false

namespace Bill
open Go

/-! ## the attempts -/

structure Testing where
  attempt : Nat := 0
  successCount : Nat := 0
  totalLatency : Int := 0
deriving DecidableEq

/-- `math.MaxInt64` -/
def maxInt64 : Int := 2 ^ 63 - 1

def Testing.turn (dial : Option Int) (t : Testing) : Testing :=
  match dial with
  | none => { t with attempt := t.attempt + 1 }
  | some latency => ⟨t.attempt + 1, t.successCount + 1, t.totalLatency + latency⟩

/-- the mean over the attempts that connected, rounded towards zero -/
def Testing.result (attempts i : Nat) (t : Testing) : IPResult :=
  ⟨i, if t.successCount = 0 then maxInt64 else t.totalLatency.tdiv t.successCount,
    attempts - t.successCount⟩

def testLoop (dial : Nat → Option Int) : Nat → Testing → Testing
  | 0, t => t
  | left + 1, t => testLoop dial left (t.turn (dial t.attempt))

section
variable (p : IPPool) (dial : Nat → Nat → Option Int)

def IPPool.testIP (i : Nat) : IPResult := (testLoop (dial i) p.attempts {}).result p.attempts i

/-- some attempt connected: `loss < 1.0` -/
def IPPool.answered (r : IPResult) : Bool := r.lost < p.attempts

/-! ## the goroutines -/

def IPPool.testWork (i : Nat) (t : Testing) : Testing ⊕ IPResult :=
  if t.attempt < p.attempts then .inl (t.turn (dial i t.attempt)) else .inr (t.result p.attempts i)

theorem turn_attempt (r : Option Int) (t : Testing) : (t.turn r).attempt = t.attempt + 1 := by
  cases r with
  | none => rfl
  | some latency => rfl

theorem testWork_turn {i : Nat} {t t' : Testing} (h : p.testWork dial i t = .inl t') :
    t.attempt < p.attempts ∧ t' = t.turn (dial i t.attempt) := by
  unfold IPPool.testWork at h
  split_ifs at h with hlt
  cases h
  exact ⟨hlt, rfl⟩

theorem testWork_end {i : Nat} {t : Testing} {r : IPResult} (h : p.testWork dial i t = .inr r) :
    p.attempts ≤ t.attempt ∧ r = t.result p.attempts i := by
  unfold IPPool.testWork at h
  split_ifs at h with hlt
  cases h
  exact ⟨Nat.le_of_not_lt hlt, rfl⟩

def IPPool.scanJob : CrewJob p.ips.length Testing IPResult where
  start _ := {}
  work i t := p.testWork dial i t
  value i t := (testLoop (dial i) (p.attempts - t.attempt) t).result p.attempts i
  left i t := p.attempts - t.attempt
  value_turn {i t t'} h := by
    obtain ⟨hlt, rfl⟩ := testWork_turn p dial h
    have hleft : p.attempts - t.attempt = (p.attempts - (t.attempt + 1)) + 1 := by omega
    rw [turn_attempt, hleft]
    rfl
  value_end {i t r} h := by
    obtain ⟨hle, rfl⟩ := testWork_end p dial h
    rw [Nat.sub_eq_zero_of_le hle]
    rfl
  left_turn {i t t'} h := by
    obtain ⟨hlt, rfl⟩ := testWork_turn p dial h
    rw [turn_attempt]
    omega

/-- the goroutines after the events of a schedule -/
def IPPool.scanning (es : List (CrewEvent p.ips.length)) : Crew p.ips.length Testing IPResult :=
  runAll (Crew.step (p.scanJob dial) p.concurrency) es Crew.begin

/-- what `scan` reads from the channel and keeps -/
def IPPool.validResults (c : Crew p.ips.length Testing IPResult) : List IPResult :=
  (c.out.map (·.2)).filter p.answered

/-- the same without goroutines, one address after the other -/
def IPPool.scanned : List IPResult := ((List.range p.ips.length).map (p.testIP dial)).filter p.answered

variable {p} {dial}

theorem scan_perm {es : List (CrewEvent p.ips.length)} (hd : (p.scanning dial es).Done) :
    (p.validResults (p.scanning dial es)).Perm (p.scanned dial) := by
  have hout := ((Crew.run_sound es).collected hd).map (·.2)
  have hlist : (List.ofFn fun i => (i, (p.scanJob dial).final i)).map (·.2) =
      (List.range p.ips.length).map (p.testIP dial) := by
    rw [List.ofFn_eq_map, List.map_map, ← List.map_coe_finRange_eq_range, List.map_map]
    rfl
  rw [hlist] at hout
  exact hout.filter _

end

/-! ## the ranking -/

/-- what `updateBest` ranks by -/
def IPResult.key (r : IPResult) : Lex (Nat × Int) := toLex (r.lost, r.latency)

theorem le_iff_key {a b : IPResult} : a.le b ↔ a.key ≤ b.key := by
  unfold IPResult.key
  rw [Prod.Lex.toLex_le_toLex]
  rfl

theorem sorted_le (l : List IPResult) : (l.insertionSort IPResult.le).Pairwise IPResult.le := by
  have htotal : Std.Total IPResult.le := ⟨fun a b => by
    rw [le_iff_key, le_iff_key]
    exact le_total _ _⟩
  have htrans : IsTrans IPResult IPResult.le := ⟨fun a b c => by
    rw [le_iff_key, le_iff_key, le_iff_key]
    exact le_trans⟩
  exact List.pairwise_insertionSort IPResult.le l

theorem sorts_perm {l l' : List IPResult} (h : l.Perm l') :
    (l.insertionSort IPResult.le).Perm (l'.insertionSort IPResult.le) :=
  (List.perm_insertionSort _ l).trans (h.trans (List.perm_insertionSort _ l').symm)

theorem sort_keys_eq {l l' : List IPResult} (h : l.Perm l') :
    (l.insertionSort IPResult.le).map IPResult.key = (l'.insertionSort IPResult.le).map IPResult.key := by
  have hsorted : ∀ l : List IPResult,
      ((l.insertionSort IPResult.le).map IPResult.key).Pairwise (· ≤ ·) := fun l =>
    List.pairwise_map.mpr ((sorted_le l).imp le_iff_key.mp)
  exact List.Perm.eq_of_pairwise' (hsorted l) (hsorted l') ((sorts_perm h).map _)

theorem sort_eq {l l' : List IPResult} (h : l.Perm l') (hn : (l.map IPResult.key).Nodup) :
    l.insertionSort IPResult.le = l'.insertionSort IPResult.le := by
  refine List.Perm.eq_of_pairwise (fun a b ha hb hab hba => ?_) (sorted_le l) (sorted_le l')
    (sorts_perm h)
  rw [List.mem_insertionSort] at ha hb
  refine List.inj_on_of_nodup_map hn ha (h.mem_iff.mpr hb) ?_
  exact le_antisymm (le_iff_key.mp hab) (le_iff_key.mp hba)

section
variable {p : IPPool} {w : Int → Nat → Nat} {l l' : List IPResult}

/-- the weight of a report, from what was measured -/
def IPResult.weighed (w : Int → Nat → Nat) (r : IPResult) : Nat := w r.latency r.lost

/-- the measurements of the addresses that are chosen -/
def IPPool.bestKeys (p : IPPool) (l : List IPResult) : List (Lex (Nat × Int)) :=
  ((l.insertionSort IPResult.le).map IPResult.key).take p.topIPCount

def keyWeight (w : Int → Nat → Nat) (k : Lex (Nat × Int)) : Nat :=
  clampWeight (w (ofLex k).2 (ofLex k).1)

theorem updateBest_keys (hl : l ≠ []) :
    (p.updateBest (IPResult.weighed w) l).bestWeights =
        (p.bestKeys l).map (keyWeight w) ++
          List.replicate (p.topIPCount - (p.bestKeys l).length) 0 ∧
      (p.updateBest (IPResult.weighed w) l).totalWeight = ((p.bestKeys l).map (keyWeight w)).sum ∧
      (p.updateBest (IPResult.weighed w) l).curValidIPs = (p.bestKeys l).length := by
  have hkeys : p.bestKeys l =
      ((l.insertionSort IPResult.le).take p.topIPCount).map IPResult.key := List.map_take.symm
  have hweights : (p.bestKeys l).map (keyWeight w) =
      ((l.insertionSort IPResult.le).take p.topIPCount).map
        fun r => clampWeight (IPResult.weighed w r) := by
    rw [hkeys, List.map_map]
    rfl
  have hlen : (p.bestKeys l).length = ((l.insertionSort IPResult.le).take p.topIPCount).length := by
    rw [hkeys, List.length_map]
  unfold IPPool.updateBest
  rw [if_neg hl, hweights, hlen]
  exact ⟨rfl, rfl, rfl⟩

theorem updateBest_perm (h : l.Perm l') :
    (p.updateBest (IPResult.weighed w) l).bestWeights =
        (p.updateBest (IPResult.weighed w) l').bestWeights ∧
      (p.updateBest (IPResult.weighed w) l).totalWeight =
        (p.updateBest (IPResult.weighed w) l').totalWeight ∧
      (p.updateBest (IPResult.weighed w) l).curValidIPs =
        (p.updateBest (IPResult.weighed w) l').curValidIPs := by
  by_cases hl : l = []
  · subst hl
    rw [h.nil_eq]
    exact ⟨rfl, rfl, rfl⟩
  · have hl' : l' ≠ [] := by
      rintro rfl
      exact hl h.eq_nil
    obtain ⟨hw, ht, hv⟩ := updateBest_keys (p := p) (w := w) hl
    obtain ⟨hw', ht', hv'⟩ := updateBest_keys (p := p) (w := w) hl'
    have hk : p.bestKeys l = p.bestKeys l' := congrArg (List.take p.topIPCount) (sort_keys_eq h)
    rw [hw, ht, hv, hw', ht', hv', hk]
    exact ⟨rfl, rfl, rfl⟩

theorem updateBest_eq (h : l.Perm l') (hn : (l.map IPResult.key).Nodup) (weight : IPResult → Nat) :
    p.updateBest weight l = p.updateBest weight l' := by
  unfold IPPool.updateBest
  rw [sort_eq h hn]
  by_cases hl : l' = []
  · subst hl
    rw [h.eq_nil]
  · rw [if_neg hl, if_neg]
    rintro rfl
    exact hl h.nil_eq.symm

theorem updateBest_indexes (weight : IPResult → Nat) (hl : l ≠ []) :
    (p.updateBest weight l).indexes =
      ((l.insertionSort IPResult.le).take p.topIPCount).map (·.ipIndex) := by
  unfold IPPool.indexes IPPool.updateBest
  rw [if_neg hl]
  exact List.take_left' (List.length_map _)

theorem updateBest_best (weight : IPResult → Nat) (hd : (l.map (·.ipIndex)).Nodup) {b r : IPResult}
    (hb : b ∈ l) (hr : r ∈ l) (hin : b.ipIndex ∈ (p.updateBest weight l).indexes)
    (hout : r.ipIndex ∉ (p.updateBest weight l).indexes) : b.key ≤ r.key := by
  have hl : l ≠ [] := List.ne_nil_of_mem hb
  rw [updateBest_indexes weight hl] at hin hout
  obtain ⟨b', hb', hidx⟩ := List.mem_map.mp hin
  have hmem : b' ∈ l := by
    rw [← List.mem_insertionSort IPResult.le]
    exact List.mem_of_mem_take hb'
  have hbb : b' = b := List.inj_on_of_nodup_map hd hmem hb hidx
  subst hbb
  have hsplit := sorted_le l
  rw [← List.take_append_drop p.topIPCount (l.insertionSort IPResult.le)] at hsplit
  have hrest : r ∈ (l.insertionSort IPResult.le).drop p.topIPCount := by
    have hall : r ∈ l.insertionSort IPResult.le := (List.mem_insertionSort _).mpr hr
    rw [← List.take_append_drop p.topIPCount (l.insertionSort IPResult.le)] at hall
    refine (List.mem_append.mp hall).resolve_left fun htake => ?_
    exact hout (List.mem_map.mpr ⟨r, htake, rfl⟩)
  exact le_iff_key.mp ((List.pairwise_append.mp hsplit).2.2 b' hb' r hrest)

end

/-! ## scans -/

theorem loaded_concurrency {std : Std} {j : Json} {p : IPPool} (h : unmarshalIPPool std j = .ok p) :
    0 < p.concurrency := by
  obtain ⟨tmp, -, h⟩ := Res.bind_eq_ok.mp h
  obtain ⟨ips, -, h⟩ := Res.bind_eq_ok.mp h
  obtain ⟨-, -, h⟩ := Res.bind_eq_ok.mp h
  obtain ⟨-, -, h⟩ := Res.bind_eq_ok.mp h
  obtain ⟨-, -, h⟩ := Res.bind_eq_ok.mp h
  obtain ⟨-, -, h⟩ := Res.bind_eq_ok.mp h
  obtain ⟨concurrency, hc, h⟩ := Res.bind_eq_ok.mp h
  obtain ⟨topCount, -, h⟩ := Res.bind_eq_ok.mp h
  obtain ⟨attempts, -, h⟩ := Res.bind_eq_ok.mp h
  obtain ⟨timeout, -, h⟩ := Res.bind_eq_ok.mp h
  obtain ⟨updateInterval, -, h⟩ := Res.bind_eq_ok.mp h
  cases h
  show 0 < concurrency.toNat
  rcases countOr_eq_ok hc with h | h
  · rw [h]
    decide
  · have hge : ¬ concurrency < 1 := of_decide_eq_false h
    omega

theorem poolStep_concurrency (e : PoolEvent) (p : IPPool) :
    (poolStep e p).concurrency = p.concurrency := by
  cases e with
  | scan weight results =>
    show (p.updateBest weight results).concurrency = p.concurrency
    unfold IPPool.updateBest
    split_ifs
    · rfl
    · rfl
  | get =>
    show (IPPool.get p).2.concurrency = p.concurrency
    rcases get_state p with h | h
    · rw [h]
    · rw [h]

theorem poolRun_concurrency (es : List PoolEvent) (p : IPPool) :
    (runAll poolStep es p).concurrency = p.concurrency :=
  runAll_invariant (I := fun q => q.concurrency = p.concurrency)
    (fun e q hq => (poolStep_concurrency e q).trans hq) es rfl

section
variable {p : IPPool} {dial : Nat → Nat → Option Int}

theorem scanned_scanOf : ScanOf p.ips (p.scanned dial) where
  inRange r hr := by
    obtain ⟨i, hi, rfl⟩ := List.mem_map.mp (List.mem_of_mem_filter hr)
    exact List.mem_range.mp hi
  distinct := by
    have hidx : ((List.range p.ips.length).map (p.testIP dial)).map (·.ipIndex) =
        List.range p.ips.length := by
      rw [List.map_map]
      exact List.map_id _
    have hsub : (p.scanned dial).Sublist ((List.range p.ips.length).map (p.testIP dial)) :=
      List.filter_sublist
    refine List.Nodup.sublist (hsub.map (·.ipIndex)) ?_
    rw [hidx]
    exact List.nodup_range

theorem ScanOf.perm {ips : List Bytes} {l l' : List IPResult} (hl : ScanOf ips l') (h : l.Perm l') :
    ScanOf ips l where
  inRange r hr := hl.inRange r (h.mem_iff.mp hr)
  distinct := (h.map (·.ipIndex)).nodup_iff.mpr hl.distinct

/-- the turns of all loops, and four steps for each goroutine -/
theorem scan_rest : Crew.rest (p.scanJob dial) Crew.begin = p.ips.length * (p.attempts + 4) := by
  show ∑ i : Fin p.ips.length, (p.attempts + 4) = _
  rw [Finset.sum_const, Finset.card_univ, Fintype.card_fin, smul_eq_mul]

end

/-- **A scan never has more than `max_concurrency` dials open, never waits for good, and is over after
a bounded number of steps**, however its goroutines are scheduled. -/
theorem scan_schedules {std : Std} {j : Json} {p q : IPPool} (hload : unmarshalIPPool std j = .ok p)
    (before : List PoolEvent) (hq : runAll poolStep before p = q) (dial : Nat → Nat → Option Int)
    (es : List (CrewEvent q.ips.length)) :
    (q.scanning dial es).held ≤ p.concurrency ∧
      (¬ (q.scanning dial es).Done →
        ∃ e, Crew.step (q.scanJob dial) q.concurrency e (q.scanning dial es) ≠ q.scanning dial es) ∧
      (Along (Crew.step (q.scanJob dial) q.concurrency)
          (fun e c => Crew.step (q.scanJob dial) q.concurrency e c ≠ c) es Crew.begin →
        es.length ≤ q.ips.length * (q.attempts + 4)) := by
  have hsound : Crew.Sound (q.scanJob dial) q.concurrency (q.scanning dial es) := Crew.run_sound es
  have hcap : q.concurrency = p.concurrency := by
    rw [← hq]
    exact poolRun_concurrency before p
  refine ⟨hcap ▸ hsound.held, fun hd => ?_, fun hes => ?_⟩
  · have hpos : 0 < q.concurrency := by
      rw [hcap]
      exact loaded_concurrency hload
    obtain ⟨e, c', hm⟩ := hsound.can_move hpos hd
    refine ⟨e, fun heq => ?_⟩
    have hlt := Crew.moves_rest hm
    rw [← Crew.step_of_moves hm, heq] at hlt
    exact Nat.lt_irrefl _ hlt
  · have hle := Crew.moves_le hes
    rw [scan_rest] at hle
    omega

/-- **However the goroutines are scheduled, a complete scan gives one ranking**: the reports are those
of testing one address after the other, the weights are the same, so are the indexes unless two
addresses measure the same, and nothing better than a chosen address is left out. -/
theorem scan_outcome (p : IPPool) (dial : Nat → Nat → Option Int) (w : Int → Nat → Nat)
    (es : List (CrewEvent p.ips.length)) (hd : (p.scanning dial es).Done) {q : IPPool}
    (hq : p.updateBest (IPResult.weighed w) (p.validResults (p.scanning dial es)) = q) :
    ScanOf p.ips (p.validResults (p.scanning dial es)) ∧
      (p.validResults (p.scanning dial es)).Perm (p.scanned dial) ∧
      (q.bestWeights = (p.updateBest (IPResult.weighed w) (p.scanned dial)).bestWeights ∧
        q.totalWeight = (p.updateBest (IPResult.weighed w) (p.scanned dial)).totalWeight ∧
        q.curValidIPs = (p.updateBest (IPResult.weighed w) (p.scanned dial)).curValidIPs) ∧
      (((p.scanned dial).map IPResult.key).Nodup →
        q = p.updateBest (IPResult.weighed w) (p.scanned dial)) ∧
      ∀ b ∈ p.scanned dial, ∀ r ∈ p.scanned dial, b.ipIndex ∈ q.indexes → r.ipIndex ∉ q.indexes →
        b.key ≤ r.key := by
  have hperm := scan_perm hd
  have hscan : ScanOf p.ips (p.validResults (p.scanning dial es)) := scanned_scanOf.perm hperm
  subst hq
  refine ⟨hscan, hperm, updateBest_perm hperm, fun hn => ?_, fun b hb r hr hin hout => ?_⟩
  · exact updateBest_eq hperm ((hperm.map _).nodup_iff.mpr hn) _
  · exact updateBest_best _ hscan.distinct (hperm.mem_iff.mpr hb) (hperm.mem_iff.mpr hr) hin hout

/-! ## two addresses, one permit -/

def narrowJSON : Json :=
  .obj [(lit "ips", .arr [.str (lit "192.0.2.7"), .str (lit "192.0.2.8")]), (lit "port", .num (lit "443")),
    (lit "max_concurrency", .num (lit "1")), (lit "attempts", .num (lit "2")),
    (lit "top_ip_count", .num (lit "1"))]

def narrowPool : IPPool :=
  { ips := [lit "192.0.2.7", lit "192.0.2.8"], port := 443, topIPCount := 1, attempts := 2,
    timeout := 10 ^ 9, updateInterval := 30 * 60 * 10 ^ 9, concurrency := 1,
    bestIndexes := [0], bestWeights := [0] }

theorem narrow_load : unmarshalIPPool asciiStd narrowJSON = .ok narrowPool := by decide +kernel

/-- the second address answers sooner, the first not every time -/
def narrowDial (i k : Nat) : Option Int := if i = 0 ∧ k = 1 then none else some (20 - 10 * i)

/-- the second goroutine has the permit first -/
def narrowRun : List (CrewEvent narrowPool.ips.length) :=
  let a : Fin narrowPool.ips.length := ⟨0, by decide⟩
  let b : Fin narrowPool.ips.length := ⟨1, by decide⟩
  [.acquire b, .acquire a, .work b, .work b, .work b, .release b, .acquire a, .send b, .work a,
    .work a, .work a, .release a, .send a]

theorem scan_schedules_narrow :
    (narrowPool.scanning narrowDial (narrowRun.take 5)).held ≤ 1 ∧
      ∃ e, Crew.step (narrowPool.scanJob narrowDial) 1 e
        (narrowPool.scanning narrowDial (narrowRun.take 5)) ≠
          narrowPool.scanning narrowDial (narrowRun.take 5) := by
  have h := scan_schedules narrow_load [] rfl narrowDial (narrowRun.take 5)
  refine ⟨h.1, h.2.1 fun hd => ?_⟩
  exact absurd (hd ⟨0, by decide⟩) (by decide +kernel)

theorem narrow_done : (narrowPool.scanning narrowDial narrowRun).Done := by
  unfold Crew.Done
  decide +kernel

theorem scan_outcome_narrow :
    (narrowPool.validResults (narrowPool.scanning narrowDial narrowRun)).Perm
        (narrowPool.scanned narrowDial) ∧
      narrowPool.updateBest (IPResult.weighed fun latency lost => 100)
          (narrowPool.validResults (narrowPool.scanning narrowDial narrowRun)) =
        narrowPool.updateBest (IPResult.weighed fun latency lost => 100)
          (narrowPool.scanned narrowDial) := by
  have h := scan_outcome narrowPool narrowDial (fun _ _ => 100) narrowRun narrow_done rfl
  exact ⟨h.2.1, h.2.2.2.1 (by decide +kernel)⟩

end Bill
