import BillVpn.Config.Pattern
import BillVpn.Config.TTLRules
import Mathlib.Data.List.TakeWhile

/-!
# What the TTL rules mean

`fake_ttl_rules` is a text `r;r;…;r`, perhaps with a `;` at the end, and each `r` is digits, `-` or
`=`, digits.  The `;` between two rules is not asked for by the scanner: where it is missing the next
turn finds no digits.

* `Clause`            one rule as it is written;
* `parseRule_text`    the scanner on a rule, whatever follows;
* `parse_sound`, `parse_complete`   exactly the texts of this form are accepted;
* `find_greatest`     the rule with the greatest threshold is the first that is found;
* `ttlRules_spec`     **both, for the function that `loadTTLRules` installs**.
-/

set_option linter.unusedVariables false

namespace Bill
open Go

/-- digits, as they are written: at least one -/
def IsDigits (s : Bytes) : Prop := s ≠ [] ∧ ∀ c ∈ s, isDigit c = true

def RuleType.op : RuleType → UInt8
  | .minus => 45
  | .equals => 61

/-- a rule as it is written -/
structure Clause where
  left : Bytes
  typ : RuleType
  right : Bytes
  left_digits : IsDigits left
  right_digits : IsDigits right

def Clause.text (c : Clause) : Bytes := c.left ++ c.typ.op :: c.right

/-- the rule it stands for, with its numbers read as `int` -/
def Clause.rule (c : Clause) : Rule := ⟨digitsInt c.left, c.typ, digitsInt c.right⟩

/-- `r;r;…;r`, with a `;` at the end or without -/
def rulesText (cs : List Clause) (last : Bool) : Bytes :=
  [semicolon].intercalate (cs.map Clause.text) ++ if last then [semicolon] else []

theorem rulesText_cons (c d : Clause) (cs : List Clause) (last : Bool) :
    rulesText (c :: d :: cs) last = c.text ++ semicolon :: rulesText (d :: cs) last := by
  unfold rulesText
  rw [List.map_cons, List.map_cons, List.intercalate_cons_cons]
  simp

theorem rulesText_single (c : Clause) (last : Bool) :
    rulesText [c] last = c.text ++ if last then [semicolon] else [] := by
  unfold rulesText
  rw [List.map_singleton, List.intercalate_singleton]

/-! ## one rule -/

def NoDigit (t : Bytes) : Prop := ∀ c, t.head? = some c → isDigit c = false

theorem takeWhile_digits {s t : Bytes} (hs : IsDigits s) (ht : NoDigit t) :
    (s ++ t).takeWhile isDigit = s ∧ (s ++ t).dropWhile isDigit = t := by
  have h1 : t.takeWhile isDigit = [] := by
    cases t with
    | nil => rfl
    | cons c t => rw [List.takeWhile_cons, ht c rfl]; rfl
  have h2 : t.dropWhile isDigit = t := by
    cases t with
    | nil => rfl
    | cons c t => rw [List.dropWhile_cons, ht c rfl]; rfl
  rw [List.takeWhile_append_of_pos hs.2, List.dropWhile_append_of_pos hs.2, h1, h2, List.append_nil]
  exact ⟨rfl, rfl⟩

theorem digits_split {s : Bytes} (h : s.takeWhile isDigit ≠ []) :
    IsDigits (s.takeWhile isDigit) ∧ NoDigit (s.dropWhile isDigit) := by
  refine ⟨⟨h, fun c hc => List.mem_takeWhile_imp hc⟩, fun c hc => ?_⟩
  have hne : s.dropWhile isDigit ≠ [] := by
    intro hn
    rw [hn] at hc
    cases hc
  have hhead := List.head_dropWhile_not isDigit hne
  rw [List.head?_eq_some_head hne] at hc
  rw [← Option.some.inj hc]
  exact hhead

theorem op_ruleType (typ : RuleType) : ruleType typ.op = some typ ∧ isDigit typ.op = false := by
  cases typ with
  | minus => decide
  | equals => decide

theorem ruleType_eq_some {op : UInt8} {typ : RuleType} (h : ruleType op = some typ) : op = typ.op := by
  unfold ruleType at h
  split_ifs at h with h1 h2
  · cases h
    exact h1
  · cases h
    exact h2

/-- what is left for the next turn: a `;` is passed over -/
def afterRule (t : Bytes) : Bytes := if t.head? = some 59 then t.drop 1 else t

theorem parseRule_text (c : Clause) {t : Bytes} (ht : NoDigit t) :
    parseRule (c.text ++ t) = .ok (c.rule, afterRule t) := by
  obtain ⟨hop, hnd⟩ := op_ruleType c.typ
  have hhead : NoDigit (c.typ.op :: (c.right ++ t)) := by
    intro d hd
    cases hd
    exact hnd
  have hs : c.text ++ t = c.left ++ c.typ.op :: (c.right ++ t) := by
    unfold Clause.text
    rw [List.append_assoc, List.cons_append]
  obtain ⟨h1, h2⟩ := takeWhile_digits c.left_digits hhead
  obtain ⟨h3, h4⟩ := takeWhile_digits c.right_digits ht
  unfold parseRule
  rw [hs, h1, h2, if_neg c.left_digits.1]
  dsimp only
  rw [hop]
  dsimp only
  rw [h3, h4, if_neg c.right_digits.1]
  rfl

theorem parseRule_sound {s rest : Bytes} {r : Rule} (h : parseRule s = .ok (r, rest)) :
    ∃ c t, s = Clause.text c ++ t ∧ NoDigit t ∧ r = c.rule ∧ rest = afterRule t := by
  unfold parseRule at h
  split_ifs at h with hl
  obtain ⟨hld, -⟩ := digits_split hl
  cases hs : s.dropWhile isDigit with
  | nil => rw [hs] at h; cases h
  | cons op t =>
    rw [hs] at h
    dsimp only at h
    cases ho : ruleType op with
    | none => rw [ho] at h; cases h
    | some typ =>
      rw [ho] at h
      dsimp only at h
      by_cases hr : t.takeWhile isDigit = []
      · rw [if_pos hr] at h
        cases h
      rw [if_neg hr] at h
      obtain ⟨hrd, hnd⟩ := digits_split hr
      have htext : s = Clause.text ⟨_, typ, _, hld, hrd⟩ ++ t.dropWhile isDigit := by
        show s = (s.takeWhile isDigit ++ typ.op :: t.takeWhile isDigit) ++ t.dropWhile isDigit
        rw [← ruleType_eq_some ho, List.append_assoc, List.cons_append, List.takeWhile_append_dropWhile,
          ← hs, List.takeWhile_append_dropWhile]
      cases h
      exact ⟨⟨_, typ, _, hld, hrd⟩, _, htext, hnd, rfl, rfl⟩

/-! ## the text -/

theorem parseRule_noDigit {s : Bytes} (h : NoDigit s) : ∃ e, parseRule s = .err e := by
  unfold parseRule
  rw [if_pos]
  · exact ⟨_, rfl⟩
  · cases s with
    | nil => rfl
    | cons c s => rw [List.takeWhile_cons, h c rfl]; rfl

theorem parseFuel_text (c : Clause) {t : Bytes} (ht : NoDigit t) :
    parseFuel (c.text ++ t).length (c.text ++ t) =
      (parseFuel (afterRule t).length (afterRule t) >>= fun rules => .ok (c.rule :: rules)) := by
  have hr := parseRule_text c ht
  cases hs : c.text ++ t with
  | nil =>
    rw [hs] at hr
    cases hr
  | cons d s =>
    rw [hs] at hr
    rw [parseLoop_eq, hr]
    rfl

theorem noDigit_semicolon (t : Bytes) : NoDigit (semicolon :: t) := by
  intro c hc
  cases hc
  decide

/-- **Every text of the form is accepted**, and its rules are read in order. -/
theorem parse_complete {cs : List Clause} (hne : cs ≠ []) (last : Bool) :
    parseFuel (rulesText cs last).length (rulesText cs last) = .ok (cs.map Clause.rule) := by
  induction cs with
  | nil => exact absurd rfl hne
  | cons c cs ih =>
    cases cs with
    | nil =>
      rw [rulesText_single]
      cases last with
      | false =>
        have hend : NoDigit [] := fun d hd => (nomatch hd)
        exact parseFuel_text c hend
      | true => exact parseFuel_text c (noDigit_semicolon [])
    | cons d cs =>
      rw [rulesText_cons, parseFuel_text c (noDigit_semicolon _)]
      show (parseFuel (rulesText (d :: cs) last).length (rulesText (d :: cs) last) >>= _) = _
      rw [ih (List.cons_ne_nil d cs)]
      rfl

/-- **Only such texts are accepted**: where the `;` is missing the next turn fails. -/
theorem parse_sound : ∀ (n : Nat) {s : Bytes} {rules : List Rule}, s.length ≤ n → s ≠ [] →
    parseFuel s.length s = .ok rules →
    ∃ cs last, cs ≠ [] ∧ s = rulesText cs last ∧ rules = cs.map Clause.rule := by
  intro n
  induction n with
  | zero =>
    intro s rules hn hs h
    exact absurd (List.length_eq_zero_iff.mp (Nat.le_zero.mp hn)) hs
  | succ n ih =>
    intro s rules hn hs h
    cases s with
    | nil => exact absurd rfl hs
    | cons d s =>
      have hloop := h
      rw [parseLoop_eq] at hloop
      obtain ⟨⟨r, rest⟩, hr, -⟩ := Res.bind_eq_ok.mp hloop
      obtain ⟨c, t, htext, hnd, -, -⟩ := parseRule_sound hr
      rw [htext] at h hn ⊢
      rw [parseFuel_text c hnd] at h
      obtain ⟨rs, hrs, h⟩ := Res.bind_eq_ok.mp h
      cases h
      have hpos : 0 < c.text.length := by
        unfold Clause.text
        rw [List.length_append, List.length_cons]
        omega
      rw [List.length_append] at hn
      cases t with
      | nil =>
        cases hrs
        exact ⟨[c], false, List.cons_ne_nil _ _, (rulesText_single c false).symm, rfl⟩
      | cons x t =>
        by_cases hx : x = semicolon
        · subst hx
          cases t with
          | nil =>
            cases hrs
            exact ⟨[c], true, List.cons_ne_nil _ _, (rulesText_single c true).symm, rfl⟩
          | cons y t =>
            rw [List.length_cons] at hn
            obtain ⟨cs, last, hcs, ht, rfl⟩ := ih (by omega) (List.cons_ne_nil y t) hrs
            cases cs with
            | nil => exact absurd rfl hcs
            | cons e cs =>
              refine ⟨c :: e :: cs, last, List.cons_ne_nil _ _, ?_, rfl⟩
              rw [rulesText_cons, ht]
        · -- no digit and no `;`: there is no rule here
          exfalso
          have hafter : afterRule (x :: t) = x :: t := if_neg fun hh => hx (Option.some.inj hh)
          rw [hafter, parseLoop_eq] at hrs
          obtain ⟨e, he⟩ := parseRule_noDigit hnd
          rw [he] at hrs
          cases hrs

/-! ## the rule that is used -/

/-- `l` is sorted with the greatest threshold first: the first rule that is reached has the greatest
threshold of all that are -/
theorem find_greatest {l : List Rule} (hsort : l.Pairwise fun a b => b.threshold ≤ a.threshold)
    (hdist : ∀ a ∈ l, ∀ b ∈ l, a.threshold = b.threshold → a = b) {ttl : Int} {r : Rule} (hr : r ∈ l)
    (hle : r.threshold ≤ ttl) (hmax : ∀ a ∈ l, a.threshold ≤ ttl → a.threshold ≤ r.threshold) :
    l.find? (fun a => a.threshold ≤ ttl) = some r := by
  cases hf : l.find? fun a => decide (a.threshold ≤ ttl) with
  | none =>
    have hno := List.find?_eq_none.mp hf r hr
    exact absurd (decide_eq_true hle) hno
  | some a =>
    obtain ⟨ha, before, after, hl, hbefore⟩ := List.find?_eq_some_iff_append.mp hf
    have hmem : a ∈ l := by
      rw [hl]
      simp
    have hle' : a.threshold ≤ ttl := of_decide_eq_true ha
    have hra : r.threshold ≤ a.threshold := by
      rw [hl] at hr hsort
      rcases List.mem_append.mp hr with hb | hb
      · have hno := hbefore r hb
        rw [decide_eq_true hle] at hno
        cases hno
      · rcases List.mem_cons.mp hb with rfl | hb
        · exact le_rfl
        · exact (List.pairwise_cons.mp (List.pairwise_append.mp hsort).2.1).1 r hb
    rw [hdist a hmem r hr (le_antisymm (hmax a hmem hle') hra)]

/-- what the rules of a text say about every distance, in whatever order they are written -/
structure Means (cs : List Clause) (f : Int → Res Int) : Prop where
  used : ∀ ttl, ∀ c ∈ cs, c.rule.threshold ≤ ttl →
    (∀ d ∈ cs, d.rule.threshold ≤ ttl → d.rule.threshold ≤ c.rule.threshold) →
    f ttl = .ok (match c.typ with
      | .minus => int64 (ttl - digitsInt c.right)
      | .equals => digitsInt c.right)
  unmatched : ∀ ttl, (∃ e, f ttl = .err e) ↔ ∀ c ∈ cs, ttl < c.rule.threshold

theorem parseTTLRules_text {cs : List Clause} (hne : cs ≠ []) (last : Bool) :
    parseTTLRules (rulesText cs last) =
      .ok ((cs.map Clause.rule).insertionSort fun a b => b.threshold ≤ a.threshold) := by
  have h := parse_complete hne last
  unfold parseTTLRules
  rw [if_neg, h]
  · rfl
  · intro hnil
    rw [hnil] at h
    have hmap : [] = cs.map Clause.rule := Res.ok.inj h
    exact hne (List.map_eq_nil_iff.mp hmap.symm)

theorem calcTTL_means {cs : List Clause} {rules : List Rule}
    (hdist : cs.Pairwise fun a b => a.rule.threshold ≠ b.rule.threshold)
    (hsort : rules.Pairwise fun a b => b.threshold ≤ a.threshold)
    (hperm : rules.Perm (cs.map Clause.rule)) : Means cs (calcTTL rules) := by
  have hmem : ∀ r, r ∈ rules ↔ ∃ c ∈ cs, c.rule = r := fun r => by
    rw [hperm.mem_iff, List.mem_map]
  have hinj : ∀ a ∈ rules, ∀ b ∈ rules, a.threshold = b.threshold → a = b := by
    have hpair : (cs.map Clause.rule).Pairwise fun a b => a.threshold ≠ b.threshold :=
      List.pairwise_map.mpr hdist
    intro a ha b hb hab
    by_contra hne
    have hsymm : Std.Symm fun a b : Rule => a.threshold ≠ b.threshold := ⟨fun a b h => h.symm⟩
    exact hpair.forall (hperm.mem_iff.mp ha) (hperm.mem_iff.mp hb) hne hab
  refine ⟨fun ttl c hc hle hmax => ?_, fun ttl => ⟨fun ⟨e, he⟩ c hc => ?_, fun hno => ?_⟩⟩
  · have hfind := find_greatest hsort hinj ((hmem c.rule).mpr ⟨c, hc, rfl⟩) hle fun a ha hale => by
      obtain ⟨d, hd, rfl⟩ := (hmem a).mp ha
      exact hmax d hd hale
    unfold calcTTL
    rw [hfind]
    rfl
  · by_contra hle
    unfold calcTTL at he
    cases hf : rules.find? fun r => decide (r.threshold ≤ ttl) with
    | none =>
      have h := List.find?_eq_none.mp hf c.rule ((hmem c.rule).mpr ⟨c, hc, rfl⟩)
      exact h (decide_eq_true (Int.not_lt.mp hle))
    | some r =>
      rw [hf] at he
      cases he
  · have hf : rules.find? (fun r => decide (r.threshold ≤ ttl)) = none := by
      refine List.find?_eq_none.mpr fun r hr => ?_
      obtain ⟨c, hc, rfl⟩ := (hmem r).mp hr
      exact fun h => absurd (of_decide_eq_true h) (Int.not_le.mpr (hno c hc))
    unfold calcTTL
    rw [hf]
    exact ⟨_, rfl⟩

/-- **TTL rules mean what they say.**  A text is accepted exactly if it has the form `r;r;…;r` with
an optional `;` at the end; and if the thresholds differ, the function that is installed uses the
rule with the greatest threshold that is reached and fails exactly if there is none. -/
theorem ttlRules_spec (conf : Bytes) :
    ((∃ rules, parseTTLRules conf = .ok rules) ↔
      ∃ cs last, cs ≠ [] ∧ conf = rulesText cs last) ∧
    ∀ cs last, cs ≠ [] → conf = rulesText cs last →
      (cs.Pairwise fun a b => a.rule.threshold ≠ b.rule.threshold) →
      ∃ f, loadTTLRules conf = .ok f ∧ Means cs f := by
  refine ⟨⟨fun ⟨rules, h⟩ => ?_, fun ⟨cs, last, hne, hc⟩ => ?_⟩, fun cs last hne hc hdist => ?_⟩
  · unfold parseTTLRules at h
    split_ifs at h with h0
    obtain ⟨l, hl, -⟩ := Res.bind_eq_ok.mp h
    obtain ⟨cs, last, hcs, htext, -⟩ := parse_sound conf.length le_rfl h0 hl
    exact ⟨cs, last, hcs, htext⟩
  · rw [hc]
    exact ⟨_, parseTTLRules_text hne last⟩
  · rw [hc]
    refine ⟨_, loadTTLRules_eq_ok.mpr ⟨_, parseTTLRules_text hne last, rfl⟩, ?_⟩
    refine calcTTL_means hdist ?_ (List.perm_insertionSort _ _)
    exact List.pairwise_insertionSort (fun a b : Rule => b.threshold ≤ a.threshold) _

/-- five hops and more: three less; ten and more: always four -/
example : (loadTTLRules (lit "5-3;10=4;") >>= fun f => f 12) = .ok 4 := by decide +kernel

end Bill
