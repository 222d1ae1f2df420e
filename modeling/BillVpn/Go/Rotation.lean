import Mathlib.Data.Nat.Count
import Mathlib.Tactic

/-!
# Weighted rotation

A counter modulo the sum of the weights picks a slot: the first one whose prefix sum passes it.  Over
as many consecutive counter values as the weights sum up to, each slot is picked as often as its
weight says.

* `slotOf`            the slot of a target;
* `count_slotOf`      over the targets below the sum;
* `count_shift`       a window of a periodic predicate may start anywhere;
* `rotation_count`    **over a window of counter values**.
-/

set_option linter.unusedVariables false

namespace Go

/-- the first slot whose prefix sum is above the target -/
def slotOf : Nat → List Nat → Option Nat
  | _, [] => none
  | target, w :: ws => if target < w then some 0 else (slotOf (target - w) ws).map (· + 1)

theorem slotOf_isSome (ws : List Nat) (target : Nat) (h : target < ws.sum) :
    ∃ i, slotOf target ws = some i ∧ i < ws.length := by
  induction ws generalizing target with
  | nil => exact absurd h (Nat.not_lt_zero _)
  | cons w ws ih =>
    rw [List.sum_cons] at h
    rw [slotOf]
    by_cases hw : target < w
    · rw [if_pos hw]
      exact ⟨0, rfl, Nat.succ_pos _⟩
    · obtain ⟨i, hi, hlt⟩ := ih (target - w) (by omega)
      rw [if_neg hw, hi]
      exact ⟨i + 1, rfl, Nat.succ_lt_succ hlt⟩

theorem count_congr {p q : Nat → Prop} [DecidablePred p] [DecidablePred q] {n : Nat}
    (h : ∀ k < n, (p k ↔ q k)) : Nat.count p n = Nat.count q n :=
  Nat.le_antisymm (Nat.count_mono_left fun k hk => (h k hk).mp)
    (Nat.count_mono_left fun k hk => (h k hk).mpr)

theorem count_slotOf (ws : List Nat) (i : Nat) :
    Nat.count (fun t => slotOf t ws = some i) ws.sum = ws.getD i 0 := by
  induction ws generalizing i with
  | nil => rfl
  | cons w ws ih =>
    rw [List.sum_cons, Nat.count_add]
    cases i with
    | zero =>
      have hfirst : Nat.count (fun t => slotOf t (w :: ws) = some 0) w = w := by
        refine Nat.count_iff_forall.mpr fun t ht => ?_
        rw [slotOf, if_pos ht]
      have hrest : Nat.count (fun k => slotOf (w + k) (w :: ws) = some 0) ws.sum = 0 := by
        refine Nat.count_iff_forall_not.mpr fun k _ hc => ?_
        rw [slotOf, if_neg (by omega)] at hc
        obtain ⟨j, _, hj⟩ := Option.map_eq_some_iff.mp hc
        omega
      rw [hfirst, hrest]
      rfl
    | succ i =>
      have hfirst : Nat.count (fun t => slotOf t (w :: ws) = some (i + 1)) w = 0 := by
        refine Nat.count_iff_forall_not.mpr fun t ht hc => ?_
        rw [slotOf, if_pos ht] at hc
        cases hc
      have hrest : Nat.count (fun k => slotOf (w + k) (w :: ws) = some (i + 1)) ws.sum =
          Nat.count (fun k => slotOf k ws = some i) ws.sum := by
        refine count_congr fun k _ => ?_
        rw [slotOf, if_neg (by omega), Nat.add_sub_cancel_left]
        constructor
        · intro hc
          obtain ⟨j, hj, he⟩ := Option.map_eq_some_iff.mp hc
          rw [hj]
          congr 1
          omega
        · intro hc
          rw [hc]
          rfl
      rw [hfirst, hrest, ih i, Nat.zero_add]
      rfl

theorem count_shift {p : Nat → Prop} [DecidablePred p] {n : Nat} (hp : ∀ k, p (k + n) ↔ p k) (c : Nat) :
    Nat.count (fun k => p (c + k)) n = Nat.count p n := by
  -- the first `c + n` values, cut after `c` and after `n`
  have hleft := Nat.count_add p c n
  have hright := Nat.count_add p n c
  have hperiod : Nat.count (fun k => p (n + k)) c = Nat.count p c :=
    count_congr fun k _ => by rw [Nat.add_comm n k, hp]
  rw [Nat.add_comm n c] at hright
  omega

/-- **over one period of counter values each slot comes as often as its weight** -/
theorem rotation_count (ws : List Nat) (c i : Nat) :
    Nat.count (fun k => slotOf ((c + k) % ws.sum) ws = some i) ws.sum = ws.getD i 0 := by
  rw [count_shift (p := fun t => slotOf (t % ws.sum) ws = some i) (fun k => by rw [Nat.add_mod_right])]
  rw [← count_slotOf ws i]
  exact count_congr fun k hk => by rw [Nat.mod_eq_of_lt hk]

theorem count_map_range {α : Type} [DecidableEq α] (f : Nat → α) (a : α) (n : Nat) :
    ((List.range n).map f).count a = Nat.count (fun k => f k = a) n := by
  unfold Nat.count List.count
  rw [List.countP_map]
  exact List.countP_congr fun k _ => by simp

end Go
