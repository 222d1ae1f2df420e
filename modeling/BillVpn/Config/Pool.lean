import BillVpn.Config.Pattern
import BillVpn.Go.Conn
import BillVpn.Go.Json
import BillVpn.Go.Map
import BillVpn.Go.Netip
import Mathlib.Data.List.Sort

/-!
# Pools of addresses

A pool is a list of addresses of which the fastest are handed out in turn.  `unmarshalIPPool`
reads one from the configuration, `updateBest` takes the results of a scan, `getFromIPPool` hands
out the next address.

* `IPPool.WF`              the invariant of a pool;
* `unmarshalIPPool_wf`     **every pool that is read has it**;
* `updateBest_wf`          **and every scan keeps it**.

The weight of an address is a quotient of floats in the source; here it is any number, clamped as
the source clamps it.
-/

set_option linter.unusedVariables false

namespace Bill
open Go

def maxIPPoolSize : Nat := 1000
def defaultMaxConcurrency : Int := 100
def defaultTopIPCount : Int := 3
def defaultAttempts : Int := 4
def defaultTimeout : Int := 10 ^ 9
def defaultUpdateInterval : Int := 30 * 60 * 10 ^ 9

structure IPPool where
  ips : List Bytes
  port : Nat
  topIPCount : Nat
  attempts : Nat
  timeout : Int
  updateInterval : Int
  concurrency : Nat
  bestIndexes : List Nat
  bestWeights : List Nat
  totalWeight : Nat := 0
  curValidIPs : Nat := 0
  counter : UInt32 := 0
deriving DecidableEq, Repr

/-! ## reading a pool -/

/-- the addresses of a block from `addr` on, while there is room in the pool -/
def listBlock (s : Bytes) (block : Pfx) : Nat → Addr → Res (List Bytes)
  | 0, _ => .err ("CIDR " ++ textOf s ++ " exceeds max pool size (1000)")
  | room + 1, addr =>
    match addr.next with
    | none => .ok [addr.text]
    | some next =>
      if block.contains next then listBlock s block room next >>= fun l => .ok (addr.text :: l)
      else .ok [addr.text]

def listResolved (s : Bytes) (ips : List Bytes) (ip : IP) : Res (List Bytes) :=
  match addrFromSlice ip with
  | none => .ok ips
  | some addr =>
    if maxIPPoolSize ≤ ips.length then
      .err ("DNS resolution for " ++ textOf s ++ " exceeds max pool size")
    else .ok (ips ++ [addr.text])

/-- one turn of the loop of `parseIPList` -/
def listSource (std : Std) (ips : List Bytes) (s : Bytes) : Res (List Bytes) :=
  if maxIPPoolSize ≤ ips.length then .err "IP pool exceeds maximum size (1000) during parsing"
  else match parseAddr s with
    | some addr => .ok (ips ++ [s])
    | none =>
      match parsePfx s with
      | some block =>
        if block.contains block.addr then
          listBlock s block (maxIPPoolSize - ips.length) block.addr >>= fun l => .ok (ips ++ l)
        else .ok ips
      | none =>
        match std.lookupIP s with
        | .error e => .err ("DNS lookup failed for " ++ textOf s ++ ": " ++ e)
        | .ok addrs => addrs.foldlM (listResolved s) ips

def parseIPList (std : Std) (sources : List Bytes) : Res (List Bytes) :=
  (sources.flatMap expandPattern).foldlM (listSource std) []

/-- a count that is absent at `0` -/
def countOr (name : String) (absent : Int) (bad : Int → Bool) (v : Int) : Res Int :=
  if v = 0 then .ok absent
  else if bad v then .err ("invalid " ++ name ++ ": " ++ toString v)
  else .ok v

/-- a duration that is absent at `""` -/
def durationOr (std : Std) (name : String) (absent : Int) (s : Bytes) : Res Int :=
  if s = [] then .ok absent
  else match std.parseDuration s with
    | .error _ => .err ("invalid " ++ name ++ ": " ++ textOf s)
    | .ok d => if d ≤ 0 then .err ("invalid " ++ name ++ ": " ++ textOf s) else .ok d

structure IPPoolJSON where
  ips : List Bytes
  port : Int
  topIPCount : Int
  maxConcurrency : Int
  timeout : Bytes
  updateInterval : Bytes
  attempts : Int

def decodeIPPoolJSON (j : Json) : Res IPPoolJSON := do
  let kvs ← j.members
  let ips ← Json.field "ips" (Json.slice [] Json.string) [] kvs
  let port ← Json.field "port" Json.int 0 kvs
  let topIPCount ← Json.field "top_ip_count" Json.int 0 kvs
  let maxConcurrency ← Json.field "max_concurrency" Json.int 0 kvs
  let timeout ← Json.field "timeout" Json.string [] kvs
  let updateInterval ← Json.field "update_interval" Json.string [] kvs
  let attempts ← Json.field "attempts" Json.int 0 kvs
  pure ⟨ips, port, topIPCount, maxConcurrency, timeout, updateInterval, attempts⟩

def unmarshalIPPool (std : Std) (j : Json) : Res IPPool := do
  let tmp ← decodeIPPoolJSON j
  let ips ← parseIPList std tmp.ips
  Res.failIf (ips = []) "no valid IPs after parsing"
  Res.failIf (maxIPPoolSize < ips.length)
    ("IP pool exceeds maximum size (1000): " ++ toString ips.length)
  Res.failIf ((ips.length : Int) < tmp.topIPCount) ("IP count (" ++ toString ips.length ++
    ") less than top_ip_count (" ++ toString tmp.topIPCount ++ ")")
  Res.failIf (tmp.port ≤ 0 ∨ 65535 < tmp.port) ("invalid port: " ++ toString tmp.port)
  let concurrency ← countOr "max_concurrency" defaultMaxConcurrency (· < 1) tmp.maxConcurrency
  let topCount ← countOr "top_ip_count" defaultTopIPCount
    (fun v => v ≤ 0 ∨ 255 < v ∨ (ips.length : Int) < v) tmp.topIPCount
  let attempts ← countOr "attempts" defaultAttempts (fun v => v ≤ 0 ∨ 255 < v) tmp.attempts
  let timeout ← durationOr std "timeout" defaultTimeout tmp.timeout
  let updateInterval ← durationOr std "update_interval" defaultUpdateInterval tmp.updateInterval
  pure { ips := ips, port := tmp.port.toNat, topIPCount := topCount.toNat,
         attempts := attempts.toNat, timeout := timeout, updateInterval := updateInterval,
         concurrency := concurrency.toNat, bestIndexes := List.replicate topCount.toNat 0,
         bestWeights := List.replicate topCount.toNat 0 }

/-! ## scans -/

/-- the result of testing one address; `lost` of the attempts failed -/
structure IPResult where
  ipIndex : Nat
  latency : Int
  lost : Nat
deriving DecidableEq, Repr

/-- fewer lost attempts first, then the smaller latency -/
def IPResult.le (a b : IPResult) : Prop := a.lost < b.lost ∨ a.lost = b.lost ∧ a.latency ≤ b.latency

instance : DecidableRel IPResult.le := fun a b => by unfold IPResult.le; infer_instance

/-- `minWeight` and `maxWeight` -/
def clampWeight (w : Nat) : Nat := max 1 (min 10000 w)

def IPPool.updateBest (weight : IPResult → Nat) (p : IPPool) (results : List IPResult) : IPPool :=
  if results = [] then p
  else
    let best := (results.insertionSort IPResult.le).take p.topIPCount
    let weights := best.map fun r => clampWeight (weight r)
    { p with
      bestIndexes := best.map (·.ipIndex) ++ p.bestIndexes.drop best.length
      bestWeights := weights ++ List.replicate (p.topIPCount - best.length) 0
      totalWeight := weights.sum
      curValidIPs := best.length }

/-- `Init`: the first scan must find an address that answers -/
def IPPool.init (scan : IPPool → List IPResult) (weight : IPResult → Nat) (p : IPPool) : Res IPPool :=
  let p := p.updateBest weight (scan p)
  if p.curValidIPs = 0 then .err "no valid IP found after initial scan" else .ok p

/-! ## the next address -/

/-- the loop of `Get`: the first index whose sum of weights passes the target -/
def pickWeighted (target : Nat) : Nat → List (Nat × Nat) → Option Nat
  | _, [] => none
  | acc, (index, weight) :: rest =>
    if target < acc + weight then some index else pickWeighted target (acc + weight) rest

/-- `""` while no address answers; the counter wraps at 32 bits -/
def IPPool.get : Proc IPPool Bytes := fun p =>
  if p.curValidIPs = 0 then (.ok [], p)
  else
    let p' := { p with counter := p.counter + 1 }
    let indexes := p.bestIndexes.take p.curValidIPs
    let weights := p.bestWeights.take p.curValidIPs
    let total := p.totalWeight % 2 ^ 32
    if total = 0 then (.panic, p')
    else
      let target := p.counter.toNat % total
      match pickWeighted target 0 (indexes.zip weights) <|> indexes.head? with
      | none => (.panic, p')
      | some i => (idx p.ips i, p')

/-- the pools by their tags; a pool may be `nil` -/
abbrev IPPools := GoMap Bytes (Option IPPool)

def getFromIPPool (tag : Bytes) : Proc IPPools Bytes := fun pools =>
  if pools.entries = [] then (.err "no ip pools", pools)
  else match pools.get tag with
    | none => (.err ("ip pool " ++ textOf tag ++ " does not exist"), pools)
    | some none => (.panic, pools)
    | some (some pool) =>
      match IPPool.get pool with
      | (.ok [], pool) => (.err ("cannot get ip from " ++ textOf tag), pools.set tag (some pool))
      | (r, pool) => (r, pools.set tag (some pool))

/-! ## the invariant -/

structure IPPool.WF (p : IPPool) : Prop where
  ips : p.ips ≠ []
  port : 1 ≤ p.port ∧ p.port ≤ 65535
  top : 1 ≤ p.topIPCount ∧ p.topIPCount ≤ 255
  indexes : p.bestIndexes.length = p.topIPCount
  weights : p.bestWeights.length = p.topIPCount
  valid : p.curValidIPs ≤ p.topIPCount
  total : p.totalWeight = (p.bestWeights.take p.curValidIPs).sum
  inRange : ∀ i ∈ p.bestIndexes.take p.curValidIPs, i < p.ips.length
  positive : ∀ w ∈ p.bestWeights.take p.curValidIPs, 1 ≤ w ∧ w ≤ 10000

theorem countOr_eq_ok {name : String} {absent v c : Int} {bad : Int → Bool}
    (h : countOr name absent bad v = .ok c) : c = absent ∨ bad c = false := by
  unfold countOr at h
  split_ifs at h with h0 hb
  · cases h; exact Or.inl rfl
  · cases h; exact Or.inr (by simpa using hb)

/-- **Every pool that is read satisfies the invariant**, with no address chosen yet. -/
theorem unmarshalIPPool_wf {std : Std} {j : Json} {p : IPPool}
    (h : unmarshalIPPool std j = .ok p) : p.WF ∧ p.curValidIPs = 0 := by
  obtain ⟨tmp, -, h⟩ := Res.bind_eq_ok.mp h
  obtain ⟨ips, -, h⟩ := Res.bind_eq_ok.mp h
  obtain ⟨_, h1, h⟩ := Res.bind_eq_ok.mp h
  obtain ⟨-, -, h⟩ := Res.bind_eq_ok.mp h
  obtain ⟨-, -, h⟩ := Res.bind_eq_ok.mp h
  obtain ⟨_, h4, h⟩ := Res.bind_eq_ok.mp h
  obtain ⟨concurrency, -, h⟩ := Res.bind_eq_ok.mp h
  obtain ⟨topCount, h6, h⟩ := Res.bind_eq_ok.mp h
  obtain ⟨attempts, -, h⟩ := Res.bind_eq_ok.mp h
  obtain ⟨timeout, -, h⟩ := Res.bind_eq_ok.mp h
  obtain ⟨updateInterval, -, h⟩ := Res.bind_eq_ok.mp h
  cases h
  rw [Res.failIf_eq_ok] at h1 h4
  have htop : 1 ≤ topCount.toNat ∧ topCount.toNat ≤ 255 := by
    rcases countOr_eq_ok h6 with h | h
    · rw [h]; decide
    · simp only [decide_eq_false_iff_not, not_or, not_le, not_lt] at h
      omega
  refine ⟨⟨h1, ?_, htop, ?_, ?_, ?_, ?_, ?_, ?_⟩, rfl⟩
  · show 1 ≤ tmp.port.toNat ∧ tmp.port.toNat ≤ 65535
    omega
  · exact List.length_replicate
  · exact List.length_replicate
  · exact Nat.zero_le _
  · rfl
  · exact fun i hi => nomatch hi
  · exact fun w hw => nomatch hw

theorem clampWeight_range (w : Nat) : 1 ≤ clampWeight w ∧ clampWeight w ≤ 10000 := by
  unfold clampWeight
  omega

/-- **Every scan keeps the invariant**, whatever the results and the weights. -/
theorem updateBest_wf {weight : IPResult → Nat} {p : IPPool} {results : List IPResult} (hp : p.WF)
    (hr : ∀ r ∈ results, r.ipIndex < p.ips.length) : (p.updateBest weight results).WF := by
  unfold IPPool.updateBest
  by_cases h0 : results = []
  · rw [if_pos h0]; exact hp
  rw [if_neg h0]
  set best := (results.insertionSort IPResult.le).take p.topIPCount with hbest
  have hlen : best.length ≤ p.topIPCount := List.length_take_le _ _
  have hmem : ∀ r ∈ best, r ∈ results := by
    intro r h
    exact (List.perm_insertionSort IPResult.le results).mem_iff.mp (List.mem_of_mem_take h)
  refine ⟨hp.ips, hp.port, hp.top, ?_, ?_, hlen, ?_, ?_, ?_⟩
  · show (best.map (·.ipIndex) ++ p.bestIndexes.drop best.length).length = p.topIPCount
    rw [List.length_append, List.length_map, List.length_drop, hp.indexes]
    omega
  · show (best.map _ ++ List.replicate (p.topIPCount - best.length) 0).length = p.topIPCount
    rw [List.length_append, List.length_map, List.length_replicate]
    omega
  · show (best.map _).sum = ((best.map _ ++ _).take best.length).sum
    rw [List.take_left' (List.length_map _)]
  · intro i hi
    have hi' : i ∈ (best.map (·.ipIndex) ++ p.bestIndexes.drop best.length).take best.length := hi
    rw [List.take_left' (List.length_map _)] at hi'
    obtain ⟨r, h, rfl⟩ := List.mem_map.mp hi'
    exact hr r (hmem r h)
  · intro w hw
    have hw' : w ∈ (best.map (fun r => clampWeight (weight r)) ++
        List.replicate (p.topIPCount - best.length) 0).take best.length := hw
    rw [List.take_left' (List.length_map _)] at hw'
    obtain ⟨r, -, rfl⟩ := List.mem_map.mp hw'
    exact clampWeight_range _

end Bill
