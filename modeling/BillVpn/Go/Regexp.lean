import BillVpn.Go.Basic

/-!
# Trimming, and regular expressions over ASCII classes

The functions of `strings` that take a set of ASCII characters, and as much of `regexp` as a
pattern of classes, `?`, `{0,n}` and `+` needs.  A match is LEFTMOST-FIRST: the first place where
the pattern matches, and there the match that a backtracking search, greedy at each repetition,
finds first.

* `trimLeft`, `trim`, `cutAtAny`   by a set of characters;
* `Regexp.lens`        the lengths of the matches at the front of a text, the preferred ones first;
* `Regexp.Lang`        the texts that the pattern describes;
* `findString_lang`    **what `FindString` finds is a text of the pattern.**
-/

set_option linter.unusedVariables false

namespace Go

/-! ## sets of characters -/

def trimLeft (cutset : Bytes) (s : Bytes) : Bytes := s.dropWhile (· ∈ cutset)

def trim (cutset : Bytes) (s : Bytes) : Bytes :=
  (trimLeft cutset (trimLeft cutset s).reverse).reverse

/-- the text before the first character of a set, by `strings.IndexAny` -/
def cutAtAny (chars : Bytes) (s : Bytes) : Bytes := s.takeWhile (· ∉ chars)

theorem trimLeft_of_head {cutset : Bytes} {c : UInt8} {s : Bytes} (hc : c ∉ cutset) :
    trimLeft cutset (c :: s) = c :: s := by
  unfold trimLeft
  rw [List.dropWhile_cons, if_neg (by simpa using hc)]

theorem trim_of_ends {cutset s : Bytes} (hhead : ∀ c ∈ s.head?, c ∉ cutset)
    (hlast : ∀ c ∈ s.getLast?, c ∉ cutset) : trim cutset s = s := by
  have hleft : ∀ t : Bytes, (∀ c ∈ t.head?, c ∉ cutset) → trimLeft cutset t = t := by
    intro t ht
    cases t with
    | nil => rfl
    | cons c t => exact trimLeft_of_head (ht c rfl)
  unfold trim
  rw [hleft s hhead, hleft s.reverse (by rwa [List.head?_reverse]), List.reverse_reverse]

/-! ## patterns -/

inductive Regexp where
  | char (p : UInt8 → Bool)
  | seq (a b : Regexp)
  | opt (a : Regexp)
  /-- `a{0,n}` -/
  | upTo (n : Nat) (a : Regexp)
  /-- `a+`, for a pattern that does not match the empty text -/
  | plus (a : Regexp)

/-- at most `n` times, and rather more than less: `f` gives the lengths of one time -/
def repeatLens (f : Bytes → List Nat) : Nat → Bytes → List Nat
  | 0, _ => [0]
  | n + 1, s => ((f s).flatMap fun i => (repeatLens f n (s.drop i)).map (i + ·)) ++ [0]

namespace Regexp

/-- the lengths of the matches at the front of a text, the preferred ones first -/
def lens : Regexp → Bytes → List Nat
  | char p, s => match s with
    | [] => []
    | c :: _ => if p c then [1] else []
  | seq a b, s => (a.lens s).flatMap fun i => (b.lens (s.drop i)).map (i + ·)
  | opt a, s => a.lens s ++ [0]
  | upTo n a, s => repeatLens a.lens n s
  | plus a, s => (a.lens s).flatMap fun i => (repeatLens a.lens s.length (s.drop i)).map (i + ·)

/-- `FindString`, with `""` for no match -/
def findString (r : Regexp) : Bytes → Bytes
  | [] => match r.lens [] with
    | i :: _ => ([] : Bytes).take i
    | [] => []
  | c :: s => match r.lens (c :: s) with
    | i :: _ => (c :: s).take i
    | [] => r.findString s

def Lang : Regexp → Bytes → Prop
  | char p, w => ∃ c, p c = true ∧ w = [c]
  | seq a b, w => ∃ u v, a.Lang u ∧ b.Lang v ∧ w = u ++ v
  | opt a, w => w = [] ∨ a.Lang w
  | upTo n a, w => ∃ ws : List Bytes, ws.length ≤ n ∧ (∀ u ∈ ws, a.Lang u) ∧ w = ws.flatten
  | plus a, w => ∃ ws : List Bytes, ws ≠ [] ∧ (∀ u ∈ ws, a.Lang u) ∧ w = ws.flatten

end Regexp

/-! ## the matches are texts of the pattern -/

theorem mem_thenLens {f g : Bytes → List Nat} {s : Bytes} {k : Nat}
    (h : k ∈ (f s).flatMap fun i => (g (s.drop i)).map (i + ·)) :
    ∃ i j, i ∈ f s ∧ j ∈ g (s.drop i) ∧ s.take k = s.take i ++ (s.drop i).take j := by
  obtain ⟨i, hi, hk⟩ := List.mem_flatMap.mp h
  obtain ⟨j, hj, rfl⟩ := List.mem_map.mp hk
  exact ⟨i, j, hi, hj, List.take_add⟩

theorem repeatLens_lang {f : Bytes → List Nat} {P : Bytes → Prop}
    (hf : ∀ s i, i ∈ f s → P (s.take i)) (n : Nat) :
    ∀ s k, k ∈ repeatLens f n s →
      ∃ ws : List Bytes, ws.length ≤ n ∧ (∀ u ∈ ws, P u) ∧ s.take k = ws.flatten := by
  have hnone : ∀ (m : Nat) (s : Bytes),
      ∃ ws : List Bytes, ws.length ≤ m ∧ (∀ u ∈ ws, P u) ∧ s.take 0 = ws.flatten :=
    fun m s => ⟨[], Nat.zero_le m, fun u hu => (nomatch hu), rfl⟩
  induction n with
  | zero =>
    intro s k hk
    rw [List.mem_singleton.mp hk]
    exact hnone 0 s
  | succ n ih =>
    intro s k hk
    rcases List.mem_append.mp hk with hmore | hzero
    · obtain ⟨i, j, hi, hj, htake⟩ := mem_thenLens hmore
      obtain ⟨ws, hlen, hws, hflat⟩ := ih _ _ hj
      refine ⟨s.take i :: ws, Nat.succ_le_succ hlen, ?_, ?_⟩
      · intro u hu
        rcases List.mem_cons.mp hu with rfl | hu
        · exact hf s i hi
        · exact hws u hu
      · rw [htake, hflat, List.flatten_cons]
    · rw [List.mem_singleton.mp hzero]
      exact hnone (n + 1) s

namespace Regexp

theorem lens_lang (r : Regexp) : ∀ s k, k ∈ r.lens s → r.Lang (s.take k) := by
  induction r with
  | char p =>
    intro s k hk
    cases s with
    | nil => cases hk
    | cons c s =>
      simp only [lens] at hk
      split_ifs at hk with hp
      · rw [List.mem_singleton.mp hk]
        exact ⟨c, hp, rfl⟩
      · cases hk
  | seq a b iha ihb =>
    intro s k hk
    obtain ⟨i, j, hi, hj, htake⟩ := mem_thenLens hk
    exact ⟨_, _, iha s i hi, ihb _ j hj, htake⟩
  | opt a ih =>
    intro s k hk
    rcases List.mem_append.mp hk with h | h
    · exact .inr (ih s k h)
    · rw [List.mem_singleton.mp h]
      exact .inl rfl
  | upTo n a ih => exact repeatLens_lang ih n
  | plus a ih =>
    intro s k hk
    obtain ⟨i, j, hi, hj, htake⟩ := mem_thenLens hk
    obtain ⟨ws, -, hws, hflat⟩ := repeatLens_lang ih _ _ _ hj
    refine ⟨s.take i :: ws, List.cons_ne_nil _ _, ?_, ?_⟩
    · intro u hu
      rcases List.mem_cons.mp hu with rfl | hu
      · exact ih s i hi
      · exact hws u hu
    · rw [htake, hflat, List.flatten_cons]

/-- **What `FindString` finds is a text of the pattern.** -/
theorem findString_lang (r : Regexp) (s : Bytes) (h : r.findString s ≠ []) :
    r.Lang (r.findString s) := by
  induction s with
  | nil =>
    unfold findString at h ⊢
    cases hl : r.lens [] with
    | nil => rw [hl] at h; exact absurd rfl h
    | cons i l => exact r.lens_lang [] i (hl ▸ List.mem_cons_self)
  | cons c s ih =>
    unfold findString at h ⊢
    cases hl : r.lens (c :: s) with
    | nil =>
      rw [hl] at h
      exact ih h
    | cons i l => exact r.lens_lang (c :: s) i (hl ▸ List.mem_cons_self)

end Regexp

end Go
