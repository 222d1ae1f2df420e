import BillVpn.Go.Basic

/-!
# Patterns with alternatives

A key of `domain_policies` or `ip_policies`, and an entry of a pool, is a list of patterns with
alternatives in brackets: `a(b|c)d` stands for `abd` and `acd`.

* `expandPattern`       the patterns without brackets;
* `expandPattern_eq`    the recursion of the source, on what follows the first group.
-/

set_option linter.unusedVariables false

namespace Bill
open Go

/-- the characters `(`, `)`, `|` and `;` -/
def lparen : UInt8 := 40
def rparen : UInt8 := 41
def pipe : UInt8 := 124
def semicolon : UInt8 := 59

/-- the texts of the source are valid UTF-8, so its loop over runes finds the same bars -/
def splitByPipe (s : Bytes) : List Bytes := s.splitOn pipe

/-- the bracket that closes a group, at a depth of open brackets: what is inside and what follows -/
def closeGroup : Nat → Bytes → Option (Bytes × Bytes)
  | _, [] => none
  | depth, c :: s =>
    if c = lparen then (closeGroup (depth + 1) s).map fun r => (c :: r.1, r.2)
    else if c = rparen then
      if depth ≤ 1 then some ([], s) else (closeGroup (depth - 1) s).map fun r => (c :: r.1, r.2)
    else (closeGroup depth s).map fun r => (c :: r.1, r.2)

/-- the text before the first `(`, the text of its group and the text after the group -/
def firstGroup (s : Bytes) : Option (Bytes × Bytes × Bytes) :=
  match s.dropWhile (· ≠ lparen) with
  | [] => none
  | _ :: t => (closeGroup 1 t).map fun r => (s.takeWhile (· ≠ lparen), r.1, r.2)

def expandFuel : Nat → Bytes → List Bytes
  | 0, _ => []
  | n + 1, s =>
    match firstGroup s with
    | none => splitByPipe s
    | some (before, inner, suffix) =>
      (splitByPipe inner).flatMap fun part =>
        (expandFuel n suffix).map fun suff => before ++ part ++ suff

def expandPattern (s : Bytes) : List Bytes := expandFuel (s.length + 1) s

/-! ## the recursion of the source -/

theorem closeGroup_length {s inner suffix : Bytes} {depth : Nat}
    (h : closeGroup depth s = some (inner, suffix)) : suffix.length < s.length := by
  induction s generalizing depth inner with
  | nil => cases h
  | cons c s ih =>
    have step : ∀ {d : Nat}, (closeGroup d s).map (fun r => (c :: r.1, r.2)) = some (inner, suffix) →
        suffix.length < (c :: s).length := by
      intro d hd
      obtain ⟨⟨i, r⟩, hi, he⟩ := Option.map_eq_some_iff.mp hd
      cases he
      exact Nat.lt_succ_of_lt (ih hi)
    unfold closeGroup at h
    split_ifs at h with h1 h2 h3
    · exact step h
    · cases h; exact Nat.lt_succ_self _
    · exact step h
    · exact step h

theorem firstGroup_length {s before inner suffix : Bytes}
    (h : firstGroup s = some (before, inner, suffix)) : suffix.length < s.length := by
  unfold firstGroup at h
  have hd := (List.dropWhile_suffix (l := s) fun c => decide (c ≠ lparen)).length_le
  cases ht : s.dropWhile (fun c => decide (c ≠ lparen)) with
  | nil => rw [ht] at h; cases h
  | cons c t =>
    rw [ht] at h hd
    obtain ⟨⟨i, r⟩, hi, he⟩ := Option.map_eq_some_iff.mp h
    cases he
    have hc : r.length < t.length := closeGroup_length hi
    rw [List.length_cons] at hd
    show r.length < s.length
    omega

/-- more fuel than the length of the text changes nothing -/
theorem expandFuel_eq {n m : Nat} {s : Bytes} (hn : s.length < n) (hm : s.length < m) :
    expandFuel n s = expandFuel m s := by
  induction n generalizing m s with
  | zero => exact absurd hn (Nat.not_lt_zero _)
  | succ n ih =>
    cases m with
    | zero => exact absurd hm (Nat.not_lt_zero _)
    | succ m =>
      unfold expandFuel
      cases hg : firstGroup s with
      | none => rfl
      | some g =>
        obtain ⟨before, inner, suffix⟩ := g
        have hl := firstGroup_length hg
        dsimp only
        rw [ih (m := m) (s := suffix) (by omega) (by omega)]

/-- **The recursion of the source**: one group, then the expansion of what follows it. -/
theorem expandPattern_eq (s : Bytes) :
    expandPattern s = match firstGroup s with
      | none => splitByPipe s
      | some (before, inner, suffix) =>
        (splitByPipe inner).flatMap fun part =>
          (expandPattern suffix).map fun suff => before ++ part ++ suff := by
  unfold expandPattern
  rw [expandFuel]
  cases hg : firstGroup s with
  | none => rfl
  | some g =>
    obtain ⟨before, inner, suffix⟩ := g
    have hl := firstGroup_length hg
    dsimp only
    rw [expandFuel_eq hl (Nat.lt_succ_self _)]

example : expandPattern (lit "a(b|c)d") = [lit "abd", lit "acd"] := by decide +kernel

end Bill
