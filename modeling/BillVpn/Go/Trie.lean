import Mathlib.Logic.Function.Basic
import Mathlib.Tactic

/-!
# Tries

A node has a value and, under some of the keys, a child.  `upd` walks down a path, makes the
nodes that are missing and changes the value at the end; a search walks down as far as there are
children.

* `All P t`        the value of every node satisfies `P`;
* `All.upd`        an update at one path keeps `All P`;
* `get_upd`        an update at one path changes the value there and no other.
-/

set_option linter.unusedVariables false

namespace Go

inductive Trie (κ ν : Type) where
  | node (val : ν) (child : κ → Option (Trie κ ν))

namespace Trie
variable {κ ν : Type}

def val : Trie κ ν → ν
  | node v _ => v

def child : Trie κ ν → κ → Option (Trie κ ν)
  | node _ c => c

/-- a node without children -/
def leaf (v : ν) : Trie κ ν := node v fun _ => none

section
variable [DecidableEq κ] (zero : ν)

/-- change the value at the end of a path; a node that is missing starts at `zero` -/
def upd (f : ν → ν) : List κ → Trie κ ν → Trie κ ν
  | [], t => node (f t.val) t.child
  | k :: ks, t => node t.val (Function.update t.child k (some (upd f ks ((t.child k).getD (leaf zero)))))

end

/-- the node at the end of a path -/
def at? (t : Trie κ ν) : List κ → Option (Trie κ ν)
  | [] => some t
  | k :: ks => (t.child k).bind fun u => u.at? ks

/-- the value of every node satisfies `P` -/
def All (P : ν → Prop) (t : Trie κ ν) : Prop := ∀ ks u, t.at? ks = some u → P u.val

section
variable {P : ν → Prop} {t u : Trie κ ν}

theorem All.val (h : All P t) : P t.val := h [] t rfl

theorem All.child (h : All P t) {k : κ} (hk : t.child k = some u) : All P u := by
  intro ks w hw
  apply h (k :: ks) w
  show (t.child k).bind (fun u => u.at? ks) = some w
  rw [hk]
  exact hw

theorem All.leaf {v : ν} (hv : P v) : All P (leaf v : Trie κ ν) := by
  intro ks w hw
  cases ks with
  | nil => cases hw; exact hv
  | cons k ks => cases hw

theorem All.node {v : ν} {c : κ → Option (Trie κ ν)} (hv : P v)
    (hc : ∀ k u, c k = some u → All P u) : All P (node v c) := by
  intro ks w hw
  cases ks with
  | nil => cases hw; exact hv
  | cons k ks =>
    obtain ⟨u, hu, hw⟩ := Option.bind_eq_some_iff.mp hw
    exact hc k u hu ks w hw

theorem All.upd [DecidableEq κ] {zero : ν} {f : ν → ν} (h0 : P zero) (hf : ∀ v, P v → P (f v))
    (ks : List κ) : ∀ {t : Trie κ ν}, All P t → All P (t.upd zero f ks) := by
  induction ks with
  | nil =>
    intro t h
    exact All.node (hf _ h.val) fun k u hu => h.child hu
  | cons k ks ih =>
    intro t h
    apply All.node h.val
    intro k' u hu
    by_cases hk : k' = k
    · rw [hk, Function.update_self] at hu
      cases hu
      apply ih
      cases hc : t.child k with
      | none => exact All.leaf h0
      | some w => exact h.child hc
    · rw [Function.update_of_ne hk] at hu
      exact h.child hu

end

/-! ## the value at a path -/

/-- a node that is missing counts as one with the value `zero` -/
def get (zero : ν) (t : Trie κ ν) : List κ → ν
  | [] => t.val
  | k :: ks =>
    match t.child k with
    | none => zero
    | some u => u.get zero ks

section
variable {zero : ν} {t u : Trie κ ν} {k : κ}

theorem get_missing (h : t.child k = none) (ks : List κ) : t.get zero (k :: ks) = zero := by
  show (match t.child k with | none => zero | some u => u.get zero ks) = zero
  rw [h]

theorem get_child (h : t.child k = some u) (ks : List κ) : t.get zero (k :: ks) = u.get zero ks := by
  show (match t.child k with | none => zero | some u => u.get zero ks) = u.get zero ks
  rw [h]

theorem get_leaf (zero : ν) (ks : List κ) : (leaf zero : Trie κ ν).get zero ks = zero := by
  cases ks with
  | nil => rfl
  | cons k ks => rfl

theorem get_cons (k : κ) (ks : List κ) :
    t.get zero (k :: ks) = ((t.child k).getD (leaf zero)).get zero ks := by
  cases h : t.child k with
  | none =>
    rw [get_missing h]
    exact (get_leaf zero ks).symm
  | some u => exact get_child h ks

/-- along the path of the update, or off it at the first key that differs -/
theorem get_upd [DecidableEq κ] (f : ν → ν) (path : List κ) : ∀ (t : Trie κ ν) (ks : List κ),
    (t.upd zero f path).get zero ks = if ks = path then f (t.get zero path) else t.get zero ks := by
  induction path with
  | nil =>
    intro t ks
    cases ks with
    | nil => rfl
    | cons k ks => exact (if_neg (List.cons_ne_nil k ks)).symm
  | cons k path ih =>
    intro t ks
    cases ks with
    | nil => exact (if_neg (List.cons_ne_nil k path).symm).symm
    | cons k' ks =>
      have hchild : (t.upd zero f (k :: path)).child =
        Function.update t.child k (some (((t.child k).getD (leaf zero)).upd zero f path)) := rfl
      by_cases hk : k' = k
      · subst hk
        have hc : (t.upd zero f (k' :: path)).child k' =
            some (((t.child k').getD (leaf zero)).upd zero f path) := by
          rw [hchild, Function.update_self]
        rw [get_child hc, ih, ← get_cons, ← get_cons]
        simp only [List.cons.injEq, true_and]
      · have hne : k' :: ks ≠ k :: path := fun he => hk (List.cons.inj he).1
        rw [if_neg hne, get_cons, get_cons, hchild, Function.update_of_ne hk]

end

end Trie

end Go
