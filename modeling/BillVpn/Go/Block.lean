import BillVpn.Go.Bits

/-!
# The addresses of a block

* `Pfx.stop_le`                  a block ends at the top of the address space at the latest;
* `Pfx.addrsFrom`, `Pfx.addrs`   the addresses from a number on, and all of them;
* `Pfx.mem_addrs`, `Pfx.addrs_increasing`   these are the contained addresses, in increasing order.
-/

set_option linter.unusedVariables false

namespace Go
namespace Pfx

variable {p : Pfx}

theorem stop_le (p : Pfx) : p.stop ≤ 2 ^ p.addr.bitLen := by
  have hlt := p.addr.val_lt
  have hsplit : 2 ^ p.addr.bitLen = 2 ^ p.bits * 2 ^ p.hostBits := by
    rw [← pow_add, hostBits, Nat.add_sub_cancel' p.bits_le]
  have hdiv : p.addr.val / 2 ^ p.hostBits < 2 ^ p.bits := by
    rw [Nat.div_lt_iff_lt_mul (Nat.two_pow_pos _), ← hsplit]
    exact hlt
  unfold stop base
  rw [hsplit, ← Nat.succ_mul]
  exact Nat.mul_le_mul_right _ hdiv

theorem val_lt_stop (p : Pfx) : p.addr.val < p.stop := by
  have hmod := Nat.div_add_mod p.addr.val (2 ^ p.hostBits)
  have hlt := Nat.mod_lt p.addr.val (Nat.two_pow_pos p.hostBits)
  unfold stop base
  rw [Nat.mul_comm] at hmod
  omega

theorem nth_addr (p : Pfx) : p.nth p.addr.val = some p.addr :=
  Addr.withVal_eq_some.mpr ⟨rfl, rfl, rfl⟩

theorem contains_addr (p : Pfx) : p.contains p.addr = true :=
  (contains_nth p.nth_addr).mpr ⟨p.base_le, p.val_lt_stop⟩

def addrsFrom (p : Pfx) (lo : Nat) : List Addr := (List.range' lo (p.stop - lo)).filterMap p.nth

def addrs (p : Pfx) : List Addr := p.addrsFrom p.base

theorem addrsFrom_cons {lo : Nat} {a : Addr} (ha : p.nth lo = some a) (h : lo < p.stop) :
    p.addrsFrom lo = a :: p.addrsFrom (lo + 1) := by
  unfold addrsFrom
  rw [show p.stop - lo = p.stop - (lo + 1) + 1 by omega, List.range'_succ, List.filterMap_cons_some ha]

theorem addrsFrom_stop {lo : Nat} (h : p.stop ≤ lo) : p.addrsFrom lo = [] := by
  unfold addrsFrom
  rw [Nat.sub_eq_zero_of_le h]
  rfl

theorem length_addrsFrom (p : Pfx) (lo : Nat) : (p.addrsFrom lo).length = p.stop - lo := by
  induction hn : p.stop - lo generalizing lo with
  | zero => rw [addrsFrom_stop (by omega), List.length_nil]
  | succ n ih =>
    have hle := p.stop_le
    obtain ⟨a, ha⟩ := nth_isSome (p := p) (k := lo) (by omega)
    rw [addrsFrom_cons ha (by omega), List.length_cons, ih (lo + 1) (by omega)]

/-- **the list holds the contained addresses** -/
theorem mem_addrs {a : Addr} : a ∈ p.addrs ↔ p.contains a = true := by
  unfold addrs addrsFrom
  rw [List.mem_filterMap]
  constructor
  · rintro ⟨k, hk, ha⟩
    rw [List.mem_range'_1] at hk
    exact (contains_nth ha).mpr (by omega)
  · intro h
    obtain ⟨hz, hl, hlo, hhi⟩ := contains_iff.mp h
    refine ⟨a.val, List.mem_range'_1.mpr (by omega), ?_⟩
    exact Addr.withVal_eq_some.mpr ⟨hl, hz.trans p.zoneless.symm, rfl⟩

/-- **each once, in increasing order** -/
theorem addrs_increasing (p : Pfx) : p.addrs.Pairwise fun a b => a.val < b.val := by
  unfold addrs addrsFrom
  have hlt : (List.range' p.base (p.stop - p.base)).Pairwise (· < ·) := List.pairwise_lt_range'
  rw [List.pairwise_filterMap]
  refine hlt.imp fun {j k} hjk a ha b hb => ?_
  rw [nth_val ha, nth_val hb]
  exact hjk

end Pfx
end Go
