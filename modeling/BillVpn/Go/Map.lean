import Mathlib.Data.List.AList
import BillVpn.Go.Basic

/-!
# Go maps, and two maps that index one set of entries

A Go map is an association list with distinct keys.  `range` visits the entries in an unspecified
order; `values` is one such order, and what is proved about a loop over it must not depend on it.

A table of entries is often kept in two maps at once, under two keys `k e` and `l e` of the entry.

* `Inverse k l m n`     each map holds exactly the entries of the other, under their own keys;
* `Inverse.set`         putting an entry into both maps;
* `Inverse.filter`      dropping the same entries from both maps.
-/

set_option linter.unusedVariables false

namespace Go

abbrev GoMap (κ ν : Type) := AList fun _ : κ => ν

section
variable {κ ι ν ε : Type} [DecidableEq κ] [DecidableEq ι]

namespace GoMap

/-- `v, ok := m[k]` -/
def get (m : GoMap κ ν) (k : κ) : Option ν := AList.lookup k m

/-- `m[k] = v` -/
def set (m : GoMap κ ν) (k : κ) (v : ν) : GoMap κ ν := AList.insert k v m

/-- `delete(m, k)` -/
def del (m : GoMap κ ν) (k : κ) : GoMap κ ν := AList.erase k m

/-- the values that `range m` visits -/
def values (m : GoMap κ ν) : List ν := m.entries.map (·.2)

/-- the pairs that `range m` visits -/
def pairs (m : GoMap κ ν) : List (κ × ν) := m.entries.map fun e => (e.1, e.2)

@[simp] theorem get_empty (k : κ) : get (∅ : GoMap κ ν) k = none := AList.lookup_empty k

theorem get_set (m : GoMap κ ν) (k j : κ) (v : ν) :
    (m.set k v).get j = if j = k then some v else m.get j := by
  by_cases h : j = k
  · rw [if_pos h, h]; exact AList.lookup_insert m
  · rw [if_neg h]; exact AList.lookup_insert_ne h

theorem get_del (m : GoMap κ ν) (k j : κ) : (m.del k).get j = if j = k then none else m.get j := by
  by_cases h : j = k
  · rw [if_pos h, h]; exact AList.lookup_erase k m
  · rw [if_neg h]; exact AList.lookup_erase_ne h

@[simp] theorem get_set_self (m : GoMap κ ν) (k : κ) (v : ν) : (m.set k v).get k = some v := by
  rw [get_set, if_pos rfl]

theorem mem_values {m : GoMap κ ν} {v : ν} : v ∈ m.values ↔ ∃ k, m.get k = some v := by
  constructor
  · intro h
    obtain ⟨⟨k, w⟩, hw, rfl⟩ := List.mem_map.mp h
    exact ⟨k, AList.mem_lookup_iff.mpr hw⟩
  · rintro ⟨k, h⟩
    exact List.mem_map.mpr ⟨⟨k, v⟩, AList.mem_lookup_iff.mp h, rfl⟩

theorem mem_pairs {m : GoMap κ ν} {k : κ} {v : ν} : (k, v) ∈ m.pairs ↔ m.get k = some v := by
  constructor
  · intro h
    obtain ⟨⟨k', v'⟩, he, heq⟩ := List.mem_map.mp h
    cases heq
    exact AList.mem_lookup_iff.mpr he
  · intro h
    exact List.mem_map.mpr ⟨⟨k, v⟩, AList.mem_lookup_iff.mp h, rfl⟩

end GoMap

/-- the order in which `range` visits the entries of a map -/
structure RangeOrder (ε : Type) where
  visit : List ε → List ε
  perm : ∀ l, (visit l).Perm l

/-! ## one table, two keys -/

theorem filter_congr {o : Option ε} {q q' : ε → Bool} (h : ∀ e, o = some e → q e = q' e) :
    o.filter q = o.filter q' := by
  cases o with
  | none => rfl
  | some e => rw [Option.filter_some, Option.filter_some, h e rfl]

theorem filter_self {o : Option ε} {q : ε → Bool} (h : ∀ e, o = some e → q e = true) :
    o.filter q = o := by
  cases o with
  | none => rfl
  | some e => rw [Option.filter_some, if_pos (h e rfl)]

variable {k : ε → κ} {l : ε → ι} {m m' : GoMap κ ε} {n n' : GoMap ι ε}

/-- `m` and `n` hold the same entries, `m` under the key `k` and `n` under the key `l` -/
structure Inverse (k : ε → κ) (l : ε → ι) (m : GoMap κ ε) (n : GoMap ι ε) : Prop where
  forth : ∀ {a e}, m.get a = some e → k e = a ∧ n.get (l e) = some e
  back : ∀ {b e}, n.get b = some e → l e = b ∧ m.get (k e) = some e

namespace Inverse

theorem empty : Inverse k l ∅ ∅ where
  forth h := by simp at h
  back h := by simp at h

theorem get_iff (h : Inverse k l m n) {a : κ} {e : ε} :
    m.get a = some e ↔ k e = a ∧ n.get (l e) = some e := by
  constructor
  · intro ha
    exact h.forth ha
  · rintro ⟨rfl, hn⟩
    exact (h.back hn).2

theorem get_iff' (h : Inverse k l m n) {b : ι} {e : ε} :
    n.get b = some e ↔ l e = b ∧ m.get (k e) = some e := by
  constructor
  · intro hb
    exact h.back hb
  · rintro ⟨rfl, hm⟩
    exact (h.forth hm).2

theorem inj (h : Inverse k l m n) {a a' : κ} {e e' : ε} (ha : m.get a = some e)
    (ha' : m.get a' = some e') (hl : l e = l e') : a = a' := by
  obtain ⟨h1, h2⟩ := h.forth ha
  obtain ⟨h3, h4⟩ := h.forth ha'
  rw [hl, h4] at h2
  cases h2
  rw [← h1, ← h3]

/-- An entry may be put into both maps when neither key is taken by an entry with another partner:
then it either is new or replaces its older version. -/
theorem set (h : Inverse k l m n) {e : ε} (hk : ∀ x, m.get (k e) = some x → l x = l e)
    (hl : ∀ x, n.get (l e) = some x → k x = k e) :
    Inverse k l (m.set (k e) e) (n.set (l e) e) where
  forth := by
    intro a x hx
    rw [GoMap.get_set] at hx
    by_cases ha : a = k e
    · rw [if_pos ha] at hx
      cases hx
      exact ⟨ha.symm, GoMap.get_set_self _ _ _⟩
    · rw [if_neg ha] at hx
      obtain ⟨h1, h2⟩ := h.forth hx
      refine ⟨h1, ?_⟩
      rw [GoMap.get_set, if_neg, h2]
      intro hle
      rw [hle] at h2
      exact ha (h1.symm.trans (hl x h2))
  back := by
    intro b x hx
    rw [GoMap.get_set] at hx
    by_cases hb : b = l e
    · rw [if_pos hb] at hx
      cases hx
      exact ⟨hb.symm, GoMap.get_set_self _ _ _⟩
    · rw [if_neg hb] at hx
      obtain ⟨h1, h2⟩ := h.back hx
      refine ⟨h1, ?_⟩
      rw [GoMap.get_set, if_neg, h2]
      intro hke
      rw [hke] at h2
      exact hb (h1.symm.trans (hk x h2))

theorem filter (h : Inverse k l m n) {q : ε → Bool} (hm : ∀ a, m'.get a = (m.get a).filter q)
    (hn : ∀ b, n'.get b = (n.get b).filter q) : Inverse k l m' n' where
  forth := by
    intro a e he
    rw [hm, Option.filter_eq_some_iff] at he
    obtain ⟨h1, h2⟩ := h.forth he.1
    exact ⟨h1, by rw [hn, Option.filter_eq_some_iff]; exact ⟨h2, he.2⟩⟩
  back := by
    intro b e he
    rw [hn, Option.filter_eq_some_iff] at he
    obtain ⟨h1, h2⟩ := h.back he.1
    exact ⟨h1, by rw [hm, Option.filter_eq_some_iff]; exact ⟨h2, he.2⟩⟩

end Inverse

end

end Go
