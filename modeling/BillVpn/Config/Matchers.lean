import BillVpn.Config.Pattern
import BillVpn.Go.Netip
import BillVpn.Go.Trie
import BillVpn.Policy.Policy

/-!
# The matchers for domains and addresses

`addrtrie` keeps the rules in tries: addresses by their bits from the top, domains by their labels
from the right.  The builders put every pattern of every key in; a pattern that a matcher refuses
is dropped without a word.

* `DomainMatcher`, `IPTrie`                        the two kinds of matcher;
* `buildDomainMatcher`, `buildIPMatchers`          from the tables of the configuration, in the
                                                   order in which `range` visits them;
* `buildDomainMatcher_find`, `buildIPMatchers_find`   **a matcher returns only policies of the
                                                   table it was built from**.
-/

set_option linter.unusedVariables false

namespace Bill
open Go

/-- the pattern that matches everything -/
def star : Bytes := lit "*"

/-! ## addresses -/

abbrev IPTrie (α : Type) := Trie Bool (Option α)

/-- the first `n` bits of a number of `width` bits -/
def bitPath (width n v : Nat) : List Bool := (List.range n).map fun i => v.testBit (width - 1 - i)

def parseIPv4OrCIDR (s : Bytes) : Res (Nat × Nat) :=
  match parsePfx s with
  | some p => if p.addr.is4 then .ok (p.addr.val, p.bits) else .err "non-IPv4 mask"
  | none =>
    match parseAddr s with
    | some a => if a.unmap.is4 then .ok (a.unmap.val, 32) else .err "invalid IPv4 address"
    | none => .err "invalid IPv4 address or CIDR"

/-- unlike its twin for IPv4 it unmaps the address of a prefix, but keeps the length -/
def parseIPv6OrCIDR (s : Bytes) : Res (Nat × Nat) :=
  match parsePfx s with
  | some p => if p.addr.unmap.is4 then .err "non-IPv6 mask" else .ok (p.addr.unmap.val, p.bits)
  | none =>
    match parseAddr s with
    | some a => if a.unmap.is4 then .err "invalid IPv6 address" else .ok (a.unmap.val, 128)
    | none => .err "invalid IPv6 address or CIDR"

section
variable {α : Type}

/-- `Insert`, for addresses of `width` bits -/
def IPTrie.insertWith (width : Nat) (parse : Bytes → Res (Nat × Nat)) (pattern : Bytes) (value : α)
    (t : IPTrie α) : Res (IPTrie α) :=
  if pattern = star then .ok (t.upd none (fun _ => some value) [])
  else parse pattern >>= fun r => .ok (t.upd none (fun _ => some value) (bitPath width r.2 r.1))

/-- the loop of `Find`: the last value on the way down -/
def IPTrie.findBits : List Bool → IPTrie α → Option α → Option α
  | [], cur, matched => cur.val <|> matched
  | b :: bs, cur, matched =>
    match cur.child b with
    | none => cur.val <|> matched
    | some next => IPTrie.findBits bs next (cur.val <|> matched)

def IPv4Trie.insert (pattern : Bytes) (value : α) (t : IPTrie α) : Res (IPTrie α) :=
  t.insertWith 32 parseIPv4OrCIDR pattern value

def IPv6Trie.insert (pattern : Bytes) (value : α) (t : IPTrie α) : Res (IPTrie α) :=
  t.insertWith 128 parseIPv6OrCIDR pattern value

def IPv4Trie.find (t : IPTrie α) (ip : Bytes) : Option α :=
  match parseAddr ip with
  | none => none
  | some a =>
    if a.unmap.is4 then IPTrie.findBits (bitPath 32 32 a.unmap.val) t none <|> t.val else none

def IPv6Trie.find (t : IPTrie α) (ip : Bytes) : Option α :=
  match parseAddr ip with
  | none => none
  | some a =>
    if a.unmap.is4 then none else IPTrie.findBits (bitPath 128 128 a.unmap.val) t none <|> t.val

/-! ## domains -/

structure LabelNode (α : Type) where
  exactValue : Option α := none
  wildcardValue : Option α := none

abbrev DomainMatcher (α : Type) := Trie Bytes (LabelNode α)

def newDomainMatcher : DomainMatcher α := Trie.leaf {}

/-- the labels of a reversed name from the right, each with whether a dot stands before it;
`label` is the part of the current one that has been read, and a dot at the front ends the walk -/
def labelsFrom (label : Bytes) : Bytes → List (Bytes × Bool)
  | [] => [(label, false)]
  | [c] => if c = dot then [(label, true)] else [(c :: label, false)]
  | c :: d :: s =>
    if c = dot then (label, true) :: labelsFrom [] (d :: s) else labelsFrom (c :: label) (d :: s)

def labels (domain : Bytes) : List (Bytes × Bool) :=
  if domain = [] then [] else labelsFrom [] domain.reverse

def DomainMatcher.insertPattern (pattern : Bytes) (value : α) (isWildcard isExact : Bool)
    (m : DomainMatcher α) : DomainMatcher α :=
  m.upd {} (fun n => ⟨if isExact then some value else n.exactValue,
    if isWildcard then some value else n.wildcardValue⟩) ((labels pattern).map (·.1))

def DomainMatcher.add (pattern : Bytes) (value : α) (m : DomainMatcher α) : Res (DomainMatcher α) :=
  if pattern = star then .ok (m.upd {} (fun n => { n with wildcardValue := some value }) [])
  else if dot ∉ pattern then .err ("invalid pattern: " ++ textOf pattern)
  else if lit "*." <+: pattern then .ok (m.insertPattern (pattern.drop 2) value true false)
  else if star <+: pattern then .ok (m.insertPattern (pattern.drop 1) value true true)
  else .ok (m.insertPattern pattern value false true)

/-- the loop of `Find`; a wildcard counts only where a dot stands before the label -/
def DomainMatcher.findLabels :
    List (Bytes × Bool) → DomainMatcher α → Option α → Option α
  | [], node, candidate => node.val.exactValue <|> candidate
  | (label, dotted) :: ls, node, candidate =>
    match node.child label with
    | none => candidate
    | some child =>
      DomainMatcher.findLabels ls child
        ((if dotted then child.val.wildcardValue else none) <|> candidate)

def DomainMatcher.find (m : DomainMatcher α) (domain : Bytes) : Option α :=
  DomainMatcher.findLabels (labels domain) m none <|> m.val.wildcardValue

end

/-! ## the tables of the configuration -/

/-- a call whose error is dropped -/
def orKeep {τ : Type} (call : τ → Res τ) (t : τ) : τ :=
  match call t with
  | .ok t' => t'
  | _ => t

def patternsOf (key : Bytes) : List Bytes := (key.splitOn semicolon).flatMap expandPattern

/-- `strings.Contains(ip, ":")` -/
def isIPv6 (ip : Bytes) : Bool := colon ∈ ip

/-- one turn of the loops of the builders, for every pattern of a key -/
def addRule {τ : Type} (add : Bytes → Policy → τ → τ) (m : τ) (rule : Bytes × Policy) : τ :=
  (patternsOf rule.1).foldl (fun m pattern => add pattern rule.2 m) m

def buildDomainMatcher (policies : List (Bytes × Policy)) : DomainMatcher Policy :=
  policies.foldl (addRule fun pattern policy => orKeep (DomainMatcher.add pattern policy))
    newDomainMatcher

/-- a pattern goes to one of the two tries -/
def insertIPRule (ipOrNet : Bytes) (policy : Policy) (m : IPTrie Policy × IPTrie Policy) :
    IPTrie Policy × IPTrie Policy :=
  if isIPv6 ipOrNet then (m.1, orKeep (IPv6Trie.insert ipOrNet policy) m.2)
  else (orKeep (IPv4Trie.insert ipOrNet policy) m.1, m.2)

def buildIPMatchers (policies : List (Bytes × Policy)) : IPTrie Policy × IPTrie Policy :=
  policies.foldl (addRule insertIPRule) (Trie.leaf none, Trie.leaf none)

def getIPPolicy (m : IPTrie Policy × IPTrie Policy) (ip : Bytes) : Option Policy :=
  if isIPv6 ip then IPv6Trie.find m.2 ip else IPv4Trie.find m.1 ip

/-! ## a matcher returns only what was put in -/

section
variable {α : Type} {P : α → Prop}

/-- the value, if there is one, satisfies `P` -/
def Within (P : α → Prop) (o : Option α) : Prop := ∀ a, o = some a → P a

theorem Within.none : Within P none := fun a h => nomatch h

theorem Within.some {a : α} (h : P a) : Within P (some a) := by
  rintro b ⟨⟩
  exact h

theorem Within.orElse {o o' : Option α} (h : Within P o) (h' : Within P o') : Within P (o <|> o') := by
  cases o with
  | none => exact h'
  | some a => exact h

theorem Within.ite {c : Prop} [Decidable c] {o o' : Option α} (h : Within P o) (h' : Within P o') :
    Within P (if c then o else o') := by
  split
  · exact h
  · exact h'

abbrev IPTrie.Only (P : α → Prop) (t : IPTrie α) : Prop := t.All (Within P)

theorem IPTrie.findBits_within (bs : List Bool) : ∀ {t : IPTrie α} {m : Option α}, t.Only P →
    Within P m → Within P (IPTrie.findBits bs t m) := by
  induction bs with
  | nil =>
    intro t m ht hm
    exact ht.val.orElse hm
  | cons b bs ih =>
    intro t m ht hm
    have hv : Within P (t.val <|> m) := ht.val.orElse hm
    unfold IPTrie.findBits
    cases hc : t.child b with
    | none => exact hv
    | some next => exact ih (ht.child hc) hv

theorem IPTrie.put_only {t : IPTrie α} {a : α} (ht : t.Only P) (ha : P a) (bs : List Bool) :
    IPTrie.Only P (t.upd none (fun _ => some a) bs) :=
  ht.upd Within.none (fun _ _ => Within.some ha) bs

theorem IPTrie.insertWith_only {width : Nat} {parse : Bytes → Res (Nat × Nat)} {pattern : Bytes}
    {a : α} {t t' : IPTrie α} (ht : t.Only P) (ha : P a)
    (h : t.insertWith width parse pattern a = .ok t') : t'.Only P := by
  unfold IPTrie.insertWith at h
  split_ifs at h with hs
  · cases h
    exact IPTrie.put_only ht ha []
  · obtain ⟨r, -, h⟩ := Res.bind_eq_ok.mp h
    cases h
    exact IPTrie.put_only ht ha _

theorem IPv4Trie.find_within {t : IPTrie α} (ht : t.Only P) (ip : Bytes) :
    Within P (IPv4Trie.find t ip) := by
  unfold IPv4Trie.find
  cases parseAddr ip with
  | none => exact Within.none
  | some a => exact ((IPTrie.findBits_within _ ht Within.none).orElse ht.val).ite Within.none

theorem IPv6Trie.find_within {t : IPTrie α} (ht : t.Only P) (ip : Bytes) :
    Within P (IPv6Trie.find t ip) := by
  unfold IPv6Trie.find
  cases parseAddr ip with
  | none => exact Within.none
  | some a => exact Within.none.ite ((IPTrie.findBits_within _ ht Within.none).orElse ht.val)

/-- both values of a node -/
structure LabelNode.Only (P : α → Prop) (n : LabelNode α) : Prop where
  exact : Within P n.exactValue
  wildcard : Within P n.wildcardValue

theorem LabelNode.Only.empty : LabelNode.Only P {} := ⟨Within.none, Within.none⟩

abbrev DomainMatcher.Only (P : α → Prop) (m : DomainMatcher α) : Prop := m.All (LabelNode.Only P)

theorem DomainMatcher.findLabels_within (ls : List (Bytes × Bool)) : ∀ {m : DomainMatcher α}
    {c : Option α}, m.Only P → Within P c → Within P (DomainMatcher.findLabels ls m c) := by
  induction ls with
  | nil =>
    intro m c hm hc
    exact hm.val.exact.orElse hc
  | cons l ls ih =>
    intro m c hm hc
    obtain ⟨label, dotted⟩ := l
    unfold DomainMatcher.findLabels
    cases hk : m.child label with
    | none => exact hc
    | some child => exact ih (hm.child hk) (((hm.child hk).val.wildcard.ite Within.none).orElse hc)

theorem DomainMatcher.find_within {m : DomainMatcher α} (hm : m.Only P) (domain : Bytes) :
    Within P (m.find domain) :=
  (DomainMatcher.findLabels_within _ hm Within.none).orElse hm.val.wildcard

theorem DomainMatcher.insertPattern_only {m : DomainMatcher α} {a : α} (hm : m.Only P) (ha : P a)
    (pattern : Bytes) (isWildcard isExact : Bool) :
    (m.insertPattern pattern a isWildcard isExact).Only P :=
  hm.upd LabelNode.Only.empty
    (fun n hn => ⟨(Within.some ha).ite hn.exact, (Within.some ha).ite hn.wildcard⟩) _

theorem DomainMatcher.add_only {m m' : DomainMatcher α} {a : α} {pattern : Bytes} (hm : m.Only P)
    (ha : P a) (h : m.add pattern a = .ok m') : m'.Only P := by
  unfold DomainMatcher.add at h
  split_ifs at h with h1 h2 h3 h4
  · cases h
    apply hm.upd LabelNode.Only.empty
    intro n hn
    exact ⟨hn.exact, Within.some ha⟩
  · cases h
    exact insertPattern_only hm ha _ _ _
  · cases h
    exact insertPattern_only hm ha _ _ _
  · cases h
    exact insertPattern_only hm ha _ _ _

end

theorem orKeep_keeps {τ : Type} {I : τ → Prop} {call : τ → Res τ} {t : τ}
    (hcall : ∀ t', call t = .ok t' → I t') (ht : I t) : I (orKeep call t) := by
  unfold orKeep
  cases hc : call t with
  | ok t' => exact hcall t' hc
  | err e => exact ht
  | panic => exact ht

theorem addRule_keeps {τ : Type} {I : τ → Prop} {add : Bytes → Policy → τ → τ}
    {rules : List (Bytes × Policy)}
    (hadd : ∀ pattern m, ∀ rule ∈ rules, I m → I (add pattern rule.2 m)) {m : τ} (hm : I m) :
    I (rules.foldl (addRule add) m) := by
  apply List.foldlRecOn (motive := I) rules (addRule add) hm
  intro m hm rule hrule
  exact List.foldlRecOn (motive := I) _ _ hm fun m hm pattern _ => hadd pattern m rule hrule hm

/-- the policies of a table -/
def Listed (rules : List (Bytes × Policy)) (p : Policy) : Prop := ∃ key, (key, p) ∈ rules

/-- **Every policy a domain matcher returns is in the table it was built from.** -/
theorem buildDomainMatcher_find {rules : List (Bytes × Policy)} {domain : Bytes} {p : Policy}
    (h : (buildDomainMatcher rules).find domain = some p) : Listed rules p := by
  have hall : (buildDomainMatcher rules).Only (Listed rules) := by
    refine addRule_keeps ?_ (Trie.All.leaf LabelNode.Only.empty)
    intro pattern m rule hrule hm
    exact orKeep_keeps (fun m' h => DomainMatcher.add_only hm ⟨rule.1, hrule⟩ h) hm
  exact DomainMatcher.find_within hall domain p h

/-- **Every policy the address matchers return is in the table they were built from.** -/
theorem buildIPMatchers_find {rules : List (Bytes × Policy)} {ip : Bytes} {p : Policy}
    (h : getIPPolicy (buildIPMatchers rules) ip = some p) : Listed rules p := by
  have hall : (buildIPMatchers rules).1.Only (Listed rules) ∧
      (buildIPMatchers rules).2.Only (Listed rules) := by
    refine addRule_keeps (I := fun m : IPTrie Policy × IPTrie Policy =>
      m.1.Only (Listed rules) ∧ m.2.Only (Listed rules)) ?_
      ⟨Trie.All.leaf Within.none, Trie.All.leaf Within.none⟩
    intro pattern m rule hrule hm
    have hr : Listed rules rule.2 := ⟨rule.1, hrule⟩
    unfold insertIPRule
    split_ifs with h6
    · exact ⟨hm.1, orKeep_keeps (fun t h => IPTrie.insertWith_only hm.2 hr h) hm.2⟩
    · exact ⟨orKeep_keeps (fun t h => IPTrie.insertWith_only hm.1 hr h) hm.1, hm.2⟩
  unfold getIPPolicy at h
  split_ifs at h with h6
  · exact IPv6Trie.find_within hall.2 ip p h
  · exact IPv4Trie.find_within hall.1 ip p h

end Bill
