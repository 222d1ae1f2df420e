import BillVpn.Config.Matchers
import BillVpn.Go.Bits
import BillVpn.Policy.Plan

/-!
# Where `map_to` sends an address

A `map_to` value is an address, a name, a pool, or a block: with a block the address keeps its host
bits and takes the network bits of the block (`transformIP`).

* `blendByte_testBit`     one byte of the new address;
* `Transplant`            the network bits of a block, the host bits of an address;
* `transformIP_law`       **`transformIP` transplants the host part**, for both families and every
                          length;
* `MapsTo`                the address that a `map_to` value stands for;
* `logger_iff`            **the rule that is returned depends on the logger** unless both addresses
                          have the same one.
-/

set_option linter.unusedVariables false

namespace Bill
open Go Proc

/-! ## bytes -/

theorem mask_testBit {m j : Nat} (h1 : 1 ≤ m) (h8 : m < 8) (hj : j < 8) :
    ((0xFF : UInt8) <<< UInt8.ofNat (8 - m)).toNat.testBit j = decide (8 - m ≤ j) := by
  have key : ∀ m j : Fin 8, 1 ≤ m.val →
      ((0xFF : UInt8) <<< UInt8.ofNat (8 - m.val)).toNat.testBit j.val = decide (8 - m.val ≤ j.val) := by
    decide
  exact key ⟨m, h8⟩ ⟨j, hj⟩ h1

theorem not_testBit (x : UInt8) {j : Nat} (hj : j < 8) :
    (~~~x).toNat.testBit j = !x.toNat.testBit j := by
  have hx : (~~~x).toNat = 2 ^ 8 - (x.toNat + 1) := by
    rw [UInt8.toNat_not]
    show 256 - 1 - x.toNat = 256 - (x.toNat + 1)
    omega
  rw [hx, Nat.testBit_two_pow_sub_succ x.toNat_lt, decide_eq_true hj, Bool.true_and]

theorem blendByte_testBit (bits i : Nat) (net ip : UInt8) {j : Nat} (hj : j < 8) :
    (blendByte bits i net ip).toNat.testBit j =
      if i * 8 + (7 - j) < bits then net.toNat.testBit j else ip.toNat.testBit j := by
  unfold blendByte
  by_cases hfull : i * 8 + 8 ≤ bits
  · rw [if_pos hfull, if_pos (by omega)]
  by_cases hnone : bits ≤ i * 8
  · rw [if_neg hfull, if_pos hnone, if_neg (by omega)]
  -- the block ends inside this byte
  rw [if_neg hfull, if_neg hnone]
  have hmask := mask_testBit (m := bits - i * 8) (by omega) (by omega) hj
  dsimp only
  rw [UInt8.toNat_or, Nat.testBit_or, UInt8.toNat_and, Nat.testBit_and, UInt8.toNat_and,
    Nat.testBit_and, not_testBit _ hj, hmask]
  by_cases hin : i * 8 + (7 - j) < bits
  · rw [if_pos hin, decide_eq_true (by omega), Bool.and_true, Bool.not_true, Bool.and_false,
      Bool.or_false]
  · rw [if_neg hin, decide_eq_false (by omega), Bool.and_false, Bool.not_false, Bool.and_true,
      Bool.false_or]

/-- the bytes of the new address -/
def blended (len bits net ip : Nat) : Bytes :=
  (List.range len).map fun i =>
    blendByte bits i ((toBytes len net).getD i 0) ((toBytes len ip).getD i 0)

theorem blended_length (len bits net ip : Nat) : (blended len bits net ip).length = len := by
  unfold blended
  rw [List.length_map, List.length_range]

theorem blended_testBit {len bits net ip k : Nat} (hk : k < 8 * len) :
    (ofBytes (blended len bits net ip)).testBit k =
      if 8 * len - 1 - k < bits then net.testBit k else ip.testBit k := by
  have hi : len - 1 - k / 8 < len := by omega
  have hget := getD_map_range (fun i =>
    blendByte bits i ((toBytes len net).getD i 0) ((toBytes len ip).getD i 0)) hi
  have hj : k % 8 < 8 := Nat.mod_lt k (by decide)
  have hplace : 8 * (len - 1 - (len - 1 - k / 8)) + k % 8 = k := by omega
  have hcond : (len - 1 - k / 8) * 8 + (7 - k % 8) = 8 * len - 1 - k := by omega
  rw [ofBytes_testBit _ k (by rw [blended_length]; exact hk), blended_length, blended, hget,
    blendByte_testBit _ _ _ _ hj, toBytes_testBit net hi hj, toBytes_testBit ip hi hj, hplace, hcond]

/-! ## addresses -/

/-- the network bits of a block, and the host bits of an address -/
structure Transplant (net : Pfx) (ip r : Addr) : Prop where
  family : r.bitLen = ip.bitLen
  zoneless : r.zone = []
  network : ∀ k, k < net.bits → r.bit k = net.addr.bit k
  host : ∀ k, net.bits ≤ k → k < ip.bitLen → r.bit k = ip.bit k

section
variable {net : Pfx} {ip r : Addr}

theorem Transplant.contains (h : Transplant net ip r) (hf : ip.bitLen = net.addr.bitLen) :
    net.contains r = true :=
  Pfx.contains_iff_bits.mpr ⟨h.zoneless, h.family.trans hf, h.network⟩

theorem Transplant.identity (h : Transplant net ip r) (hc : net.contains ip = true) : r = ip := by
  obtain ⟨hz, hl, hbits⟩ := Pfx.contains_iff_bits.mp hc
  refine Addr.eq_of_bits h.family (h.zoneless.trans hz.symm) fun k hk => ?_
  by_cases hin : k < net.bits
  · rw [h.network k hin, hbits k hin]
  · exact h.host k (Nat.le_of_not_lt hin) (h.family ▸ hk)

theorem base_testBit (p : Pfx) {i : Nat} (h : p.hostBits ≤ i) :
    p.base.testBit i = p.addr.val.testBit i := by
  unfold Pfx.base
  rw [Nat.testBit_mul_two_pow, decide_eq_true h, Bool.true_and, Nat.testBit_div_two_pow,
    Nat.sub_add_cancel h]

theorem transplant_of_bytes (len : Nat) (hf : ip.bitLen = net.addr.bitLen)
    (hl : r.bitLen = ip.bitLen) (hz : r.zone = []) (hlen : ip.bitLen = 8 * len)
    (hv : r.val = ofBytes (blended len net.bits net.base ip.val)) : Transplant net ip r := by
  have hbit : ∀ k, k < ip.bitLen →
      r.bit k = if k < net.bits then net.base.testBit (ip.bitLen - 1 - k)
        else ip.val.testBit (ip.bitLen - 1 - k) := by
    intro k hk
    unfold Addr.bit
    rw [hl, hv, blended_testBit (by omega), show 8 * len - 1 - (ip.bitLen - 1 - k) = k by omega]
  have hle := net.bits_le
  refine ⟨hl, hz, fun k hk => ?_, fun k hk hlt => ?_⟩
  · have hhost : net.hostBits ≤ ip.bitLen - 1 - k := by
      unfold Pfx.hostBits
      omega
    rw [hbit k (by omega), if_pos hk, base_testBit net hhost, hf]
    rfl
  · rw [hbit k hlt, if_neg (by omega)]
    rfl

variable {s t : Bytes}

theorem transformIP_mismatch (hs : parseAddr s = some ip) (ht : parsePfx t = some net)
    (hf : ip.is4 ≠ net.addr.is4) : ∃ e, transformIP s t = .err e := by
  unfold transformIP
  rw [hs, ht]
  dsimp only
  rw [if_pos hf]
  exact ⟨_, rfl⟩

theorem transformIP_run (hs : parseAddr s = some ip) (ht : parsePfx t = some net)
    (hf : ip.is4 = net.addr.is4) :
    ∃ r, transformIP s t = .ok r.text ∧ Transplant net ip r := by
  have hbl := Addr.is4_iff_bitLen.mp hf
  unfold transformIP
  rw [hs, ht]
  dsimp only
  rw [if_neg (not_not.mpr hf)]
  cases ip with
  | v4 n =>
    have hlt := ofBytes_lt (blended 4 net.bits net.base n.val)
    rw [blended_length] at hlt
    have haddr : addrFromSlice (blended 4 net.bits net.base n.val) =
        some (.v4 ⟨ofBytes (blended 4 net.bits net.base n.val), hlt⟩) := by
      unfold addrFromSlice
      rw [if_pos (blended_length _ _ _ _), dif_pos]
    refine ⟨_, ?_, transplant_of_bytes (r := .v4 ⟨_, hlt⟩) 4 hbl rfl rfl rfl rfl⟩
    split
    · rename_i a ha
      rw [Option.some.inj (ha.symm.trans haddr)]
    · rename_i ha
      cases ha.symm.trans haddr
  | v6 n z =>
    have hlt := ofBytes_lt (blended 16 net.bits net.base n.val)
    rw [blended_length] at hlt
    have hlt : ofBytes (blended 16 net.bits net.base n.val) < 2 ^ 128 := hlt
    have haddr : addrFromSlice (blended 16 net.bits net.base n.val) =
        some (.v6 ⟨ofBytes (blended 16 net.bits net.base n.val), hlt⟩ []) := by
      unfold addrFromSlice
      rw [if_neg (by rw [blended_length]; decide), if_pos (blended_length _ _ _ _), dif_pos hlt]
    refine ⟨_, ?_, transplant_of_bytes (r := .v6 ⟨_, hlt⟩ []) 16 hbl rfl rfl rfl rfl⟩
    split
    · rename_i a ha
      rw [Option.some.inj (ha.symm.trans haddr)]
    · rename_i ha
      cases ha.symm.trans haddr

/-- **`transformIP` transplants the host part.**  The address it returns has the network bits of the
block, masked or not, and the host bits of the source; so it is in the block, a second call changes
nothing, and an address of the block stays.  With different families it fails. -/
theorem transformIP_law (s t : Bytes) (ip : Addr) (net : Pfx) (hs : parseAddr s = some ip)
    (ht : parsePfx t = some net) :
    (ip.is4 = net.addr.is4 → ∃ r, transformIP s t = .ok r.text ∧ parseAddr r.text = some r ∧
      Transplant net ip r ∧ net.contains r = true ∧ transformIP r.text t = .ok r.text ∧
      (net.contains ip = true → r = ip)) ∧
    (ip.is4 ≠ net.addr.is4 → ∃ e, transformIP s t = .err e) := by
  refine ⟨fun hf => ?_, transformIP_mismatch hs ht⟩
  obtain ⟨r, hr, htr⟩ := transformIP_run hs ht hf
  have hin := htr.contains (Addr.is4_iff_bitLen.mp hf)
  refine ⟨r, hr, parseAddr_text r, htr, hin, ?_, htr.identity⟩
  -- a second call is for an address of the block
  have hrf : r.is4 = net.addr.is4 := (Addr.is4_iff_bitLen.mpr htr.family).trans hf
  obtain ⟨r', hr', htr'⟩ := transformIP_run (parseAddr_text r) ht hrf
  rw [hr', htr'.identity hin]

end

/-- an address of the block, that is written with host bits -/
theorem transformIP_law_identity :
    transformIP (lit "10.1.2.3") (lit "10.1.0.9/16") = .ok (lit "10.1.2.3") := by
  have hs : parseAddr (lit "10.1.2.3") = some (.v4 167838211) := by decide +kernel
  have ht : parsePfx (lit "10.1.0.9/16") = some ⟨.v4 167837705, 16, rfl, by decide⟩ := by
    decide +kernel
  obtain ⟨r, hr, -, -, -, -, hid⟩ := (transformIP_law _ _ _ _ hs ht).1 rfl
  rw [hr, hid (by decide)]
  decide +kernel

/-! ## the logger -/

section
variable {σ : Type} {rd : Redirects σ} {ip mapTo t : Bytes} {s : σ}

/-- the address that a `map_to` value stands for, by what pools and bootstrap resolution answer -/
def MapsTo (rd : Redirects σ) (ip mapTo : Bytes) (s : σ) (t : Bytes) : Prop :=
  if startsWith tagMark mapTo then (rd.getFromIPPool (mapTo.drop 1) s).1 = .ok t
  else if slash ∈ mapTo then transformIP ip mapTo = .ok t
  else if isIP mapTo then mapTo = t
  else (rd.resolveBootstrapHost mapTo s).1 = .ok t

theorem mapTarget_ok : (mapTarget rd ip mapTo s).1 = .ok t ↔ MapsTo rd ip mapTo s t := by
  unfold mapTarget MapsTo
  split_ifs with h1 h2 h3
  · exact Iff.rfl
  · exact Iff.rfl
  · exact Res.ok.injEq mapTo t ▸ Iff.rfl
  · exact Iff.rfl

theorem moved_target {p : Policy} {c : UInt8} {cs : Bytes} (hp : rd.getIPPolicy ip = some p)
    (hm : p.mapTo = some (c :: cs)) : moved rd ip = mapTarget rd ip (c :: cs) := by
  unfold moved
  rw [hp]
  dsimp only
  rw [hm]

theorem logger_moved (rd : Redirects σ) (ip : Bytes) (s : σ) :
    (ipRedirect rd true ip s).1 = (ipRedirect rd false ip s).1 ↔
      ∀ t, (moved rd ip s).1 = .ok t → rd.getIPPolicy t = rd.getIPPolicy ip := by
  rw [ipRedirect_logged, ipRedirect_quiet, run_bind, run_bind]
  rcases moved rd ip s with ⟨r, s'⟩
  cases r with
  | ok t =>
    constructor
    · intro h t' ht
      cases ht
      exact congrArg Prod.snd (Res.ok.inj h).symm
    · intro h
      exact congrArg (fun p => Res.ok (t, p)) (h t rfl).symm
  | err e => exact iff_of_true rfl fun t ht => (nomatch ht)
  | panic => exact iff_of_true rfl fun t ht => (nomatch ht)

/-- **A redirection does not depend on the logger if and only if** every address that `map_to` can
stand for has the rule of the address that is redirected. -/
theorem logger_iff (rd : Redirects σ) (ip : Bytes) (s : σ) :
    (ipRedirect rd true ip s).1 = (ipRedirect rd false ip s).1 ↔
      ∀ p m t, rd.getIPPolicy ip = some p → p.mapTo = some m → m ≠ [] → MapsTo rd ip m s t →
        rd.getIPPolicy t = some p := by
  rw [logger_moved]
  constructor
  · intro h p m t hp hm hne hmaps
    cases m with
    | nil => exact absurd rfl hne
    | cons c cs =>
      rw [← hp]
      refine h t ?_
      rw [moved_target hp hm]
      exact mapTarget_ok.mpr hmaps
  · intro h t ht
    rcases moved_cases rd ip with hstay | ⟨p, c, cs, hp, hm, htarget⟩
    · rw [hstay] at ht
      cases ht
      rfl
    · rw [htarget] at ht
      rw [hp]
      exact h p (c :: cs) t hp hm (List.cons_ne_nil c cs) (mapTarget_ok.mp ht)

end

/-- one rule, that leads to an address without a rule -/
def oneMapped : Redirects Unit where
  getIPPolicy := getIPPolicy (buildIPMatchers [(lit "192.0.2.0/24",
    { mode := .tlsrf, mapTo := some (lit "198.51.100.7") })])
  getFromIPPool := fun _ => fail "no ip pools"
  resolveBootstrapHost := fun _ => fail "no such host"

theorem logger_decides_rule :
    (ipRedirect oneMapped true (lit "192.0.2.1") ()).1 =
      .ok (lit "198.51.100.7", some { mode := .tlsrf, mapTo := some (lit "198.51.100.7") }) ∧
    (ipRedirect oneMapped false (lit "192.0.2.1") ()).1 = .ok (lit "198.51.100.7", none) := by
  constructor
  · decide +kernel
  · decide +kernel

end Bill
