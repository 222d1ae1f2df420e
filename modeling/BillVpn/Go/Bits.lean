import BillVpn.Go.NetipText
import Mathlib.Data.List.GetD

/-!
# Bits of byte slices and of addresses

The bytes of a slice and the bits of an address are numbered from the front, the bits of a number
from the back.

* `ofBytes_testBit`, `toBytes_testBit`   a bit of a number is a bit of one of its bytes;
* `Addr.bit`                             the bits of an address;
* `Addr.eq_of_bits`                      an address is its family, its zone and its bits;
* `Pfx.contains_iff_bits`                **a block holds the addresses that start with its bits**.
-/

set_option linter.unusedVariables false

namespace Go

/-! ## slices -/

theorem testBit_snoc (x : Nat) (c : UInt8) (k : Nat) :
    (x * 256 + c.toNat).testBit k = if k < 8 then c.toNat.testBit k else x.testBit (k - 8) := by
  rw [Nat.mul_comm]
  exact Nat.testBit_two_pow_mul_add x (i := 8) c.toNat_lt k

theorem ofBytes_testBit (b : Bytes) : ∀ k, k < 8 * b.length →
    (ofBytes b).testBit k = (b.getD (b.length - 1 - k / 8) 0).toNat.testBit (k % 8) := by
  induction b using List.reverseRecOn with
  | nil => exact fun k hk => absurd hk (Nat.not_lt_zero k)
  | append_singleton b c ih =>
    intro k hk
    rw [List.length_append, List.length_singleton] at hk ⊢
    rw [ofBytes_append, testBit_snoc]
    by_cases h8 : k < 8
    · have hi : b.length + 1 - 1 - k / 8 = b.length := by omega
      rw [if_pos h8, hi, Nat.mod_eq_of_lt h8, List.getD_append_right _ _ _ _ le_rfl, Nat.sub_self]
      rfl
    · have hi : b.length + 1 - 1 - k / 8 = b.length - 1 - (k - 8) / 8 := by omega
      have hj : (k - 8) % 8 = k % 8 := by omega
      rw [if_neg h8, ih (k - 8) (by omega), hi, hj, List.getD_append _ _ _ _ (by omega)]

theorem getD_map_range {n i : Nat} (f : Nat → UInt8) (hi : i < n) :
    ((List.range n).map f).getD i 0 = f i := by
  rw [List.getD_eq_getElem?_getD, List.getElem?_map, List.getElem?_range hi]
  rfl

theorem toBytes_testBit {len i j : Nat} (n : Nat) (hi : i < len) (hj : j < 8) :
    ((toBytes len n).getD i 0).toNat.testBit j = n.testBit (8 * (len - 1 - i) + j) := by
  have hpow : 256 ^ (len - 1 - i) = 2 ^ (8 * (len - 1 - i)) := by
    rw [show 256 = 2 ^ 8 from rfl, ← pow_mul]
  have hbyte : (UInt8.ofNat (n / 256 ^ (len - 1 - i) % 256)).toNat =
      n / 256 ^ (len - 1 - i) % 2 ^ 8 :=
    UInt8.toNat_ofNat_of_lt' (Nat.mod_lt _ (by decide))
  unfold toBytes
  rw [getD_map_range _ hi, hbyte, Nat.testBit_mod_two_pow, decide_eq_true hj, Bool.true_and, hpow,
    Nat.testBit_div_two_pow, Nat.add_comm]

/-! ## addresses -/

namespace Addr

/-- the bit with number `k`, from the front -/
def bit (a : Addr) (k : Nat) : Bool := a.val.testBit (a.bitLen - 1 - k)

theorem is4_iff_bitLen {a b : Addr} : a.is4 = b.is4 ↔ a.bitLen = b.bitLen := by
  cases a with
  | v4 n =>
    cases b with
    | v4 m => exact iff_of_true rfl rfl
    | v6 m z => exact iff_of_false (fun h => by cases h) (by simp [bitLen])
  | v6 n z =>
    cases b with
    | v4 m => exact iff_of_false (fun h => by cases h) (by simp [bitLen])
    | v6 m z' => exact iff_of_true rfl rfl

theorem val_lt (a : Addr) : a.val < 2 ^ a.bitLen := by
  cases a with
  | v4 n => exact n.isLt
  | v6 n z => exact n.isLt

theorem testBit_eq_false {a : Addr} {i : Nat} (h : a.bitLen ≤ i) : a.val.testBit i = false :=
  Nat.testBit_lt_two_pow (a.val_lt.trans_le (Nat.pow_le_pow_right (by decide) h))

theorem testBit_eq_bit {a : Addr} {i : Nat} (h : i < a.bitLen) :
    a.val.testBit i = a.bit (a.bitLen - 1 - i) := by
  unfold bit
  rw [show a.bitLen - 1 - (a.bitLen - 1 - i) = i by omega]

theorem ext_val {a b : Addr} (hl : a.bitLen = b.bitLen) (hz : a.zone = b.zone)
    (hv : a.val = b.val) : a = b := by
  have ha : a.withVal a.val = some a := withVal_eq_some.mpr ⟨rfl, rfl, rfl⟩
  have hb : a.withVal a.val = some b := withVal_eq_some.mpr ⟨hl.symm, hz.symm, hv.symm⟩
  exact Option.some.inj (ha.symm.trans hb)

theorem eq_of_bits {a b : Addr} (hl : a.bitLen = b.bitLen) (hz : a.zone = b.zone)
    (h : ∀ k, k < a.bitLen → a.bit k = b.bit k) : a = b := by
  refine ext_val hl hz (Nat.eq_of_testBit_eq fun i => ?_)
  by_cases hi : i < a.bitLen
  · rw [testBit_eq_bit hi, testBit_eq_bit (hl ▸ hi), h _ (by omega), hl]
  · rw [testBit_eq_false (Nat.le_of_not_lt hi), testBit_eq_false (hl ▸ Nat.le_of_not_lt hi)]

end Addr

namespace Pfx

/-- **A block holds the addresses of its family that start with its bits.** -/
theorem contains_iff_bits {p : Pfx} {a : Addr} :
    p.contains a = true ↔ a.zone = [] ∧ a.bitLen = p.addr.bitLen ∧
      ∀ k, k < p.bits → a.bit k = p.addr.bit k := by
  have hbits := p.bits_le
  unfold contains
  rw [Bool.and_eq_true, Bool.and_eq_true, beq_iff_eq, beq_iff_eq, beq_iff_eq, and_assoc]
  refine and_congr_right fun hz => and_congr_right fun hl => ⟨fun h k hk => ?_, fun h => ?_⟩
  · -- the bit is one of the quotient
    have hi : a.bitLen - 1 - k = (a.bitLen - 1 - k - p.hostBits) + p.hostBits := by
      unfold hostBits
      omega
    unfold Addr.bit
    rw [← hl, hi, ← Nat.testBit_div_two_pow, ← Nat.testBit_div_two_pow, h]
  · refine Nat.eq_of_testBit_eq fun i => ?_
    rw [Nat.testBit_div_two_pow, Nat.testBit_div_two_pow]
    by_cases hi : i + p.hostBits < a.bitLen
    · have hk : a.bitLen - 1 - (i + p.hostBits) < p.bits := by
        unfold hostBits at hi ⊢
        omega
      rw [Addr.testBit_eq_bit hi, Addr.testBit_eq_bit (hl ▸ hi), h _ hk, hl]
    · rw [Addr.testBit_eq_false (Nat.le_of_not_lt hi),
        Addr.testBit_eq_false (hl ▸ Nat.le_of_not_lt hi)]

end Pfx

end Go
