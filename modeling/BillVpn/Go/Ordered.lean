import Mathlib.Data.List.Perm.Basic
import Mathlib.Tactic

/-!
# Tables filled in some order

A loop over the rules of a map fills a table: every rule writes its value to its slots, over what is
there.  A search goes through slots, the most specific first, and takes the first value.

* `Fills`            what one turn of the loop does;
* `lastValue`        what a slot holds after the loop;
* `bestSlot`         the first slot of a search that any rule writes to;
* `found_perm_iff`   **the search gives the same after every order exactly if the rules that write to
                     the best slot have one value**.
-/

set_option linter.unusedVariables false

namespace Go

section
variable {ρ σ ν τ : Type} [DecidableEq σ] (slots : ρ → List σ) (value : ρ → ν)

/-- a turn writes the value of the rule to its slots -/
def Fills (look : τ → σ → Option ν) (turn : τ → ρ → τ) : Prop :=
  ∀ t r s, look (turn t r) s = if s ∈ slots r then some (value r) else look t s

def lastValue (rules : List ρ) (s : σ) : Option ν :=
  (rules.reverse.find? fun r => decide (s ∈ slots r)).map value

def bestSlot (rules : List ρ) (path : List σ) : Option σ :=
  path.find? fun s => rules.any fun r => decide (s ∈ slots r)

/-- rules that write to the best slot of the search have the same value -/
def Agree (rules : List ρ) (path : List σ) : Prop :=
  ∀ s, bestSlot slots rules path = some s → ∀ r ∈ rules, ∀ r' ∈ rules,
    s ∈ slots r → s ∈ slots r' → value r = value r'

variable {slots value}

/-! ## what the loop leaves -/

theorem lastValue_append (rules : List ρ) (r : ρ) (s : σ) :
    lastValue slots value (rules ++ [r]) s =
      if s ∈ slots r then some (value r) else lastValue slots value rules s := by
  unfold lastValue
  rw [List.reverse_append, List.reverse_singleton, List.singleton_append, List.find?_cons]
  by_cases h : s ∈ slots r
  · rw [if_pos h, decide_eq_true h]
    rfl
  · rw [if_neg h, decide_eq_false h]

theorem Fills.foldl {look : τ → σ → Option ν} {turn : τ → ρ → τ} (h : Fills slots value look turn)
    {t : τ} (ht : ∀ s, look t s = none) (rules : List ρ) (s : σ) :
    look (rules.foldl turn t) s = lastValue slots value rules s := by
  induction rules using List.reverseRecOn with
  | nil => exact ht s
  | append_singleton rules r ih =>
    rw [List.foldl_append, lastValue_append, ← ih]
    exact h _ r s

theorem lastValue_mem {rules : List ρ} {s : σ} {v : ν} (h : lastValue slots value rules s = some v) :
    ∃ r ∈ rules, s ∈ slots r ∧ value r = v := by
  obtain ⟨r, hr, rfl⟩ := Option.map_eq_some_iff.mp h
  refine ⟨r, List.mem_reverse.mp (List.mem_of_find?_eq_some hr), ?_, rfl⟩
  simpa using List.find?_some hr

theorem lastValue_isSome (value : ρ → ν) {rules : List ρ} {s : σ} :
    (lastValue slots value rules s).isSome = rules.any fun r => decide (s ∈ slots r) := by
  unfold lastValue
  rw [Option.isSome_map, Bool.eq_iff_iff, List.find?_isSome, List.any_eq_true]
  simp only [List.mem_reverse]

/-! ## a search -/

theorem findSome_lastValue (rules : List ρ) (path : List σ) :
    path.findSome? (lastValue slots value rules) =
      (bestSlot slots rules path).bind (lastValue slots value rules) := by
  induction path with
  | nil => rfl
  | cons s path ih =>
    unfold bestSlot at ih ⊢
    rw [List.findSome?_cons, List.find?_cons, ← lastValue_isSome value]
    cases h : lastValue slots value rules s with
    | some v =>
      dsimp only [Option.isSome_some]
      rw [Option.bind_some, h]
    | none => exact ih

theorem bestSlot_perm {rules rules' : List ρ} (h : rules'.Perm rules) (path : List σ) :
    bestSlot slots rules' path = bestSlot slots rules path := by
  unfold bestSlot
  congr 1
  funext s
  exact h.any_eq

theorem bestSlot_written (value : ρ → ν) {rules : List ρ} {path : List σ} {s : σ}
    (h : bestSlot slots rules path = some s) : ∃ v, lastValue slots value rules s = some v := by
  have hany := List.find?_some h
  rw [← lastValue_isSome value] at hany
  exact Option.isSome_iff_exists.mp hany

theorem found_last (value : ρ → ν) {rules : List ρ} {path : List σ} {s : σ} (hb : bestSlot slots rules path = some s)
    {r : ρ} (hr : r ∈ rules) (hs : s ∈ slots r) :
    ∃ order : List ρ, order.Perm rules ∧
      path.findSome? (lastValue slots value order) = some (value r) := by
  obtain ⟨front, back, rfl⟩ := List.append_of_mem hr
  have hp : (front ++ back ++ [r]).Perm (front ++ r :: back) := by
    rw [List.append_assoc]
    exact (List.perm_append_singleton r back).append_left front
  refine ⟨_, hp, ?_⟩
  rw [findSome_lastValue, bestSlot_perm hp, hb, Option.bind_some, lastValue_append, if_pos hs]

/-- **A search gives the same after every order of the rules exactly if they agree on its best
slot.** -/
theorem found_perm_iff (rules : List ρ) (path : List σ) :
    (∀ l l' : List ρ, l.Perm rules → l'.Perm rules →
      path.findSome? (lastValue slots value l) = path.findSome? (lastValue slots value l')) ↔
      Agree slots value rules path := by
  constructor
  · intro h s hb r hr r' hr' hs hs'
    obtain ⟨l, hl, hfound⟩ := found_last value hb hr hs
    obtain ⟨l', hl', hfound'⟩ := found_last value hb hr' hs'
    have he := h l l' hl hl'
    rw [hfound, hfound'] at he
    exact Option.some_inj.mp he
  · intro h l l' hl hl'
    rw [findSome_lastValue, findSome_lastValue, bestSlot_perm hl, bestSlot_perm hl']
    cases hb : bestSlot slots rules path with
    | none => rfl
    | some s =>
      obtain ⟨v, hv⟩ := bestSlot_written value ((bestSlot_perm hl path).trans hb)
      obtain ⟨v', hv'⟩ := bestSlot_written value ((bestSlot_perm hl' path).trans hb)
      obtain ⟨r, hr, hs, rfl⟩ := lastValue_mem hv
      obtain ⟨r', hr', hs', rfl⟩ := lastValue_mem hv'
      rw [Option.bind_some, Option.bind_some, hv, hv',
        h s hb r (hl.mem_iff.mp hr) r' (hl'.mem_iff.mp hr') hs hs']

end

end Go
