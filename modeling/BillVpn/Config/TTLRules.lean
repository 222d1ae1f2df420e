import BillVpn.Go.Netip
import Mathlib.Data.List.Sort

/-!
# The rules for the TTL of a fake packet

`fake_ttl_rules` is a list `a-b;c=d;…`: from a distance of `a` on take `b` off, from `c` on use `d`.
The rule with the greatest threshold that applies is used.

* `parseTTLRules`, `loadTTLRules`     the text, and the function it stands for;
* `parseLoop_eq`                      the loop of the source, without fuel;
* `parseTTLRules_ne_nil`              a text that is accepted has a rule, so that
                                      `loadTTLRules` never installs its constant function.
-/

set_option linter.unusedVariables false

namespace Bill
open Go

/-- an `int` after overflow -/
def int64 (n : Int) : Int := Int.bmod n (2 ^ 64)

inductive RuleType where
  | minus | equals
deriving DecidableEq, Repr

structure Rule where
  threshold : Int
  typ : RuleType
  val : Int
deriving DecidableEq, Repr

/-- the value of digits, with the overflow of `a*10 + int(c-'0')` -/
def digitsInt (s : Bytes) : Int := s.foldl (fun a c => int64 (a * 10 + (c.toNat - 48 : Nat))) 0

/-- `-` or `=` -/
def ruleType (op : UInt8) : Option RuleType :=
  if op = 45 then some .minus else if op = 61 then some .equals else none

/-- one turn of the loop: a rule, and the text after it and its `;` -/
def parseRule (s : Bytes) : Res (Rule × Bytes) :=
  if s.takeWhile isDigit = [] then .err "invalid rule: missing left number"
  else match s.dropWhile isDigit with
    | [] => .err "invalid rule: missing operator"
    | op :: t =>
      match ruleType op with
      | none => .err "invalid operator"
      | some typ =>
        if t.takeWhile isDigit = [] then .err "invalid rule: missing right number"
        else
          let rest := t.dropWhile isDigit
          .ok (⟨digitsInt (s.takeWhile isDigit), typ, digitsInt (t.takeWhile isDigit)⟩,
            if rest.head? = some 59 then rest.drop 1 else rest)

def parseFuel : Nat → Bytes → Res (List Rule)
  | _, [] => .ok []
  | 0, _ :: _ => .ok []
  | n + 1, c :: s => do
    let (r, rest) ← parseRule (c :: s)
    let rules ← parseFuel n rest
    pure (r :: rules)

/-- the greatest threshold first; `sort.Slice` leaves the order of equal ones open -/
def parseTTLRules (conf : Bytes) : Res (List Rule) :=
  if conf = [] then .err "empty config"
  else parseFuel conf.length conf >>= fun rules =>
    .ok (rules.insertionSort fun a b => b.threshold ≤ a.threshold)

def Rule.apply (r : Rule) (ttl : Int) : Int :=
  match r.typ with
  | .minus => int64 (ttl - r.val)
  | .equals => r.val

/-- the first rule whose threshold is reached -/
def calcTTL (rules : List Rule) (ttl : Int) : Res Int :=
  match rules.find? fun r => r.threshold ≤ ttl with
  | some r => .ok (r.apply ttl)
  | none => .err "no matching TTL rule"

/-- without a rule the text would be read as one number -/
def constantTTL (conf : Bytes) : Res Int :=
  if conf.all isDigit then .ok (digitsInt conf) else .err "invalid integer config"

def loadTTLRules (conf : Bytes) : Res (Int → Res Int) :=
  parseTTLRules conf >>= fun rules =>
    if rules = [] then .ok fun _ => constantTTL conf else .ok (calcTTL rules)

/-! ## the loop -/

theorem parseRule_length {s rest : Bytes} {r : Rule} (h : parseRule s = .ok (r, rest)) :
    rest.length < s.length := by
  unfold parseRule at h
  split_ifs at h with hl
  have hd := (List.dropWhile_suffix (l := s) isDigit).length_le
  cases hs : s.dropWhile isDigit with
  | nil => rw [hs] at h; cases h
  | cons op t =>
    rw [hs] at h hd
    dsimp only at h
    cases ho : ruleType op with
    | none => rw [ho] at h; cases h
    | some typ =>
      rw [ho] at h
      dsimp only at h
      have ht := (List.dropWhile_suffix (l := t) isDigit).length_le
      rw [List.length_cons] at hd
      split_ifs at h with h1 h2
      · cases h
        rw [List.length_drop]
        omega
      · cases h
        omega

theorem parseFuel_eq {n m : Nat} {s : Bytes} (hn : s.length ≤ n) (hm : s.length ≤ m) :
    parseFuel n s = parseFuel m s := by
  induction n generalizing m s with
  | zero =>
    rw [List.length_eq_zero_iff.mp (Nat.le_zero.mp hn)]
    cases m <;> rfl
  | succ n ih =>
    cases s with
    | nil => cases m <;> rfl
    | cons c s =>
      cases m with
      | zero => exact absurd hm (by simp)
      | succ m =>
        unfold parseFuel
        cases hr : parseRule (c :: s) with
        | ok r =>
          obtain ⟨r, rest⟩ := r
          have hlen := parseRule_length hr
          show (parseFuel n rest >>= _) = (parseFuel m rest >>= _)
          rw [ih (m := m) (s := rest) (by omega) (by omega)]
        | err e => rfl
        | panic => rfl

/-- **The loop of the source**: rules one after the other until the text is used up. -/
theorem parseLoop_eq {c : UInt8} {s : Bytes} :
    parseFuel (c :: s).length (c :: s) = (do
      let (r, rest) ← parseRule (c :: s)
      let rules ← parseFuel rest.length rest
      pure (r :: rules)) := by
  show (parseRule (c :: s) >>= fun r => parseFuel s.length r.2 >>= fun rules => pure (r.1 :: rules)) = _
  cases hr : parseRule (c :: s) with
  | ok r =>
    have hlen : r.2.length < (c :: s).length := parseRule_length (r := r.1) hr
    rw [List.length_cons] at hlen
    rw [Res.bind_ok, Res.bind_ok, parseFuel_eq (s := r.2) (by omega) (Nat.le_refl _)]
  | err e => rfl
  | panic => rfl

/-- **A text that is accepted has a rule.** -/
theorem parseTTLRules_ne_nil {conf : Bytes} {rules : List Rule}
    (h : parseTTLRules conf = .ok rules) : rules ≠ [] := by
  unfold parseTTLRules at h
  split_ifs at h with h0
  obtain ⟨l, hl, h⟩ := Res.bind_eq_ok.mp h
  cases h
  cases conf with
  | nil => exact absurd rfl h0
  | cons c s =>
    rw [parseLoop_eq] at hl
    obtain ⟨r, -, hl⟩ := Res.bind_eq_ok.mp hl
    obtain ⟨rs, -, hl⟩ := Res.bind_eq_ok.mp hl
    cases hl
    intro hnil
    have hlen := List.length_insertionSort (fun a b : Rule => b.threshold ≤ a.threshold) (r.1 :: rs)
    rw [hnil] at hlen
    exact nomatch hlen

theorem loadTTLRules_eq_ok {conf : Bytes} {f : Int → Res Int} :
    loadTTLRules conf = .ok f ↔ ∃ rules, parseTTLRules conf = .ok rules ∧ f = calcTTL rules := by
  unfold loadTTLRules
  rw [Res.bind_eq_ok]
  constructor
  · rintro ⟨rules, hr, h⟩
    rw [if_neg (parseTTLRules_ne_nil hr)] at h
    cases h
    exact ⟨rules, hr, rfl⟩
  · rintro ⟨rules, hr, rfl⟩
    exact ⟨rules, hr, if_neg (parseTTLRules_ne_nil hr)⟩

end Bill
