import BillVpn.Config.Matchers
import BillVpn.Go.Ordered

/-!
# The order of the rules

`range` visits the rules of a table in any order.  Every pattern has its places in a matcher, and a
rule that comes later takes the places of those before it.

* `domainSlots`, `ipSlots`     the places of a pattern;
* `domainSearch`, `ipSearch`   the places where a name or an address is looked for;
* `matchers_order_iff`         **the order does not matter exactly if rules with a pattern for the
                               most specific place of a name, or of an address, agree**;
* `order_matters`              two keys with the same pattern, and two blocks with the same bits.
-/

set_option linter.unusedVariables false

namespace Bill
open Go

def ruleSlots {σ : Type} (slotsOf : Bytes → List σ) (rule : Bytes × Policy) : List σ :=
  (patternsOf rule.1).flatMap slotsOf

section
variable {σ τ : Type} [DecidableEq σ] {slotsOf : Bytes → List σ} {look : τ → σ → Option Policy}
  {add : Bytes → Policy → τ → τ}

theorem addRule_fills (h : ∀ pattern policy m s, look (add pattern policy m) s =
      if s ∈ slotsOf pattern then some policy else look m s) :
    Fills (ruleSlots slotsOf) (·.2) look (addRule add) := by
  intro m rule s
  unfold addRule ruleSlots
  induction patternsOf rule.1 generalizing m with
  | nil => rfl
  | cons pattern patterns ih =>
    rw [List.foldl_cons, ih, h, List.flatMap_cons]
    by_cases hrest : s ∈ patterns.flatMap slotsOf
    · rw [if_pos hrest, if_pos (List.mem_append_right _ hrest)]
    · rw [if_neg hrest]
      apply if_congr _ rfl rfl
      rw [List.mem_append, or_iff_left hrest]

end

section
variable {α : Type}

/-! ## domains -/

inductive DomainSlot where
  | exact (path : List Bytes)
  | wildcard (path : List Bytes)
deriving DecidableEq, Repr

def DomainMatcher.look (m : DomainMatcher α) : DomainSlot → Option α
  | .exact path => (m.get {} path).exactValue
  | .wildcard path => (m.get {} path).wildcardValue

def labelPath (domain : Bytes) : List Bytes := (labels domain).map (·.1)

def domainSlots (pattern : Bytes) : List DomainSlot :=
  if pattern = star then [.wildcard []]
  else if dot ∉ pattern then []
  else if lit "*." <+: pattern then [.wildcard (labelPath (pattern.drop 2))]
  else if star <+: pattern then
    [.wildcard (labelPath (pattern.drop 1)), .exact (labelPath (pattern.drop 1))]
  else [.exact (labelPath pattern)]

/-- the labels before which a dot stands, with those to the right; the longest first -/
def wildcardPaths : List (Bytes × Bool) → List (List Bytes)
  | [] => []
  | (label, dotted) :: ls =>
    (wildcardPaths ls).map (label :: ·) ++ if dotted then [[label]] else []

def domainSearch (domain : Bytes) : List DomainSlot :=
  .exact (labelPath domain) :: (wildcardPaths (labels domain)).map .wildcard ++ [.wildcard []]

theorem DomainMatcher.upd_look (m : DomainMatcher α) (f : LabelNode α → LabelNode α)
    (path : List Bytes) (s : DomainSlot) :
    DomainMatcher.look (m.upd {} f path) s =
      match s with
      | .exact p => if p = path then (f (m.get {} path)).exactValue else m.look s
      | .wildcard p => if p = path then (f (m.get {} path)).wildcardValue else m.look s := by
  cases s with
  | exact p =>
    show ((m.upd {} f path).get {} p).exactValue = _
    rw [Trie.get_upd]
    exact apply_ite LabelNode.exactValue _ _ _
  | wildcard p =>
    show ((m.upd {} f path).get {} p).wildcardValue = _
    rw [Trie.get_upd]
    exact apply_ite LabelNode.wildcardValue _ _ _

theorem ite_written {P : Prop} [Decidable P] (b : Bool) {v x y : Option α} (h : P → x = y) :
    (if P then (if b = true then v else x) else y) = if b = true ∧ P then v else y := by
  by_cases hP : P
  · rw [if_pos hP, h hP]
    exact if_congr ((and_iff_left hP).symm) rfl rfl
  · rw [if_neg hP, if_neg fun hb => hP hb.2]

theorem DomainMatcher.insertPattern_look (m : DomainMatcher α) (pattern : Bytes) (value : α)
    (isWildcard isExact : Bool) (s : DomainSlot) :
    (m.insertPattern pattern value isWildcard isExact).look s =
      if (isExact = true ∧ s = .exact (labelPath pattern)) ∨
        (isWildcard = true ∧ s = .wildcard (labelPath pattern)) then some value else m.look s := by
  unfold insertPattern
  rw [upd_look]
  cases s with
  | exact p =>
    simp only [DomainSlot.exact.injEq, reduceCtorEq, and_false, or_false]
    apply ite_written
    intro hp
    rw [hp]
    rfl
  | wildcard p =>
    simp only [DomainSlot.wildcard.injEq, reduceCtorEq, and_false, false_or]
    apply ite_written
    intro hp
    rw [hp]
    rfl

theorem DomainMatcher.add_look (pattern : Bytes) (value : α) (m : DomainMatcher α) (s : DomainSlot) :
    DomainMatcher.look (orKeep (DomainMatcher.add pattern value) m) s =
      if s ∈ domainSlots pattern then some value else m.look s := by
  unfold orKeep DomainMatcher.add domainSlots
  by_cases h1 : pattern = star
  · simp only [if_pos h1]
    rw [upd_look]
    cases s with
    | exact p =>
      have hsame : (if p = [] then (m.get {} []).exactValue else m.look (.exact p)) =
          m.look (.exact p) := by
        by_cases hp : p = []
        · rw [if_pos hp, hp]
          rfl
        · rw [if_neg hp]
      exact hsame.trans (if_neg (by simp)).symm
    | wildcard p => simp
  · simp only [if_neg h1]
    by_cases h2 : dot ∉ pattern
    · simp only [if_pos h2]
      exact (if_neg (List.not_mem_nil)).symm
    · simp only [if_neg h2]
      by_cases h3 : lit "*." <+: pattern
      · simp only [if_pos h3]
        rw [insertPattern_look]
        simp
      · simp only [if_neg h3]
        by_cases h4 : star <+: pattern
        · simp only [if_pos h4]
          rw [insertPattern_look]
          apply if_congr _ rfl rfl
          simp [or_comm]
        · simp only [if_neg h4]
          rw [insertPattern_look]
          simp

theorem DomainMatcher.findLabels_eq (ls : List (Bytes × Bool)) : ∀ (m : DomainMatcher α) (c : Option α),
    DomainMatcher.findLabels ls m c = (((m.get {} (ls.map (·.1))).exactValue <|>
      (wildcardPaths ls).findSome? fun p => (m.get {} p).wildcardValue) <|> c) := by
  induction ls with
  | nil =>
    intro m c
    show (m.val.exactValue <|> c) = ((m.val.exactValue <|> none) <|> c)
    cases m.val.exactValue with
    | none => rfl
    | some v => rfl
  | cons l ls ih =>
    intro m c
    obtain ⟨label, dotted⟩ := l
    have hone : (if dotted = true then [[label]] else []).findSome?
        (fun p => (m.get {} p).wildcardValue) =
        if dotted = true then (m.get {} [label]).wildcardValue else none := by
      cases dotted with
      | true => exact List.findSome?_singleton
      | false => rfl
    unfold DomainMatcher.findLabels wildcardPaths
    rw [List.map_cons, List.findSome?_append, List.findSome?_map, hone]
    cases hk : m.child label with
    | none =>
      have hrest : (wildcardPaths ls).findSome? ((fun p => (m.get {} p).wildcardValue) ∘ (label :: ·)) =
          none := by
        apply List.findSome?_eq_none_iff.mpr
        intro p _
        show (m.get {} (label :: p)).wildcardValue = none
        rw [Trie.get_missing hk]
      rw [hrest, Trie.get_missing hk, Trie.get_missing hk, ite_self]
      rfl
    | some child =>
      have hrest : ((fun p => (m.get {} p).wildcardValue) ∘ (label :: ·)) =
          fun p => (child.get {} p).wildcardValue := by
        funext p
        show (m.get {} (label :: p)).wildcardValue = _
        rw [Trie.get_child hk]
      dsimp only
      rw [ih, hrest, Trie.get_child hk, Trie.get_child hk]
      cases (child.get {} (ls.map (·.1))).exactValue with
      | some v => rfl
      | none =>
        cases (wildcardPaths ls).findSome? fun p => (child.get {} p).wildcardValue with
        | some v => rfl
        | none => rfl

theorem DomainMatcher.find_eq (m : DomainMatcher α) (domain : Bytes) :
    m.find domain = (domainSearch domain).findSome? m.look := by
  unfold DomainMatcher.find domainSearch
  rw [findLabels_eq, List.findSome?_append, List.findSome?_cons, List.findSome?_map,
    List.findSome?_singleton]
  show (((m.look (.exact (labelPath domain)) <|> _) <|> none) <|> m.look (.wildcard [])) = _
  cases m.look (.exact (labelPath domain)) with
  | some v => rfl
  | none =>
    show ((List.findSome? (m.look ∘ .wildcard) _ <|> none) <|> _) = _
    cases (wildcardPaths (labels domain)).findSome? (m.look ∘ .wildcard) with
    | some v => rfl
    | none => rfl

theorem newDomainMatcher_look (s : DomainSlot) : (newDomainMatcher : DomainMatcher α).look s = none := by
  unfold newDomainMatcher
  cases s with
  | exact p =>
    show ((Trie.leaf {} : DomainMatcher α).get {} p).exactValue = none
    rw [Trie.get_leaf]
  | wildcard p =>
    show ((Trie.leaf {} : DomainMatcher α).get {} p).wildcardValue = none
    rw [Trie.get_leaf]

/-! ## addresses -/

/-- in which trie, and the bits of the path -/
structure IPSlot where
  six : Bool
  path : List Bool
deriving DecidableEq, Repr

def bitSlots (width : Nat) (parse : Bytes → Res (Nat × Nat)) (pattern : Bytes) : List (List Bool) :=
  if pattern = star then [[]]
  else
    match parse pattern with
    | .ok r => [bitPath width r.2 r.1]
    | _ => []

def ipSlots (ipOrNet : Bytes) : List IPSlot :=
  if isIPv6 ipOrNet then (bitSlots 128 parseIPv6OrCIDR ipOrNet).map (IPSlot.mk true)
  else (bitSlots 32 parseIPv4OrCIDR ipOrNet).map (IPSlot.mk false)

def longestFirst (bits : List Bool) : List (List Bool) := bits.inits.reverse

def ipSearch (ip : Bytes) : List IPSlot :=
  match parseAddr ip with
  | none => []
  | some a =>
    if isIPv6 ip then
      if a.unmap.is4 then [] else (longestFirst (bitPath 128 128 a.unmap.val)).map (IPSlot.mk true)
    else if a.unmap.is4 then (longestFirst (bitPath 32 32 a.unmap.val)).map (IPSlot.mk false) else []

def lookIP (m : IPTrie α × IPTrie α) (s : IPSlot) : Option α :=
  if s.six then m.2.get none s.path else m.1.get none s.path

theorem IPTrie.insert_get (width : Nat) (parse : Bytes → Res (Nat × Nat)) (pattern : Bytes) (value : α)
    (t : IPTrie α) (path : List Bool) :
    Trie.get none (orKeep (IPTrie.insertWith width parse pattern value) t) path =
      if path ∈ bitSlots width parse pattern then some value else t.get none path := by
  unfold orKeep IPTrie.insertWith bitSlots
  by_cases h : pattern = star
  · simp only [if_pos h]
    rw [Trie.get_upd]
    exact if_congr List.mem_singleton.symm rfl rfl
  · simp only [if_neg h]
    cases hp : parse pattern with
    | ok r =>
      show (Trie.upd none (fun _ => some value) _ t).get none path = _
      rw [Trie.get_upd]
      exact if_congr List.mem_singleton.symm rfl rfl
    | err e => exact (if_neg List.not_mem_nil).symm
    | panic => exact (if_neg List.not_mem_nil).symm

theorem IPTrie.findBits_eq (bs : List Bool) : ∀ (t : IPTrie α) (c : Option α),
    IPTrie.findBits bs t c = ((longestFirst bs).findSome? (t.get none) <|> c) := by
  induction bs with
  | nil =>
    intro t c
    show (t.val <|> c) = (List.findSome? (t.get none) [[]] <|> c)
    rw [List.findSome?_singleton]
    rfl
  | cons b bs ih =>
    intro t c
    have hlong : (longestFirst (b :: bs)).findSome? (t.get none) =
        ((longestFirst bs).findSome? fun p => t.get none (b :: p)).or t.val := by
      unfold longestFirst
      rw [List.inits_cons, List.reverse_cons, List.findSome?_append, ← List.map_reverse,
        List.findSome?_map, List.findSome?_singleton]
      rfl
    unfold IPTrie.findBits
    rw [hlong]
    cases hk : t.child b with
    | none =>
      have hrest : ((longestFirst bs).findSome? fun p => t.get none (b :: p)) = none :=
        List.findSome?_eq_none_iff.mpr fun p _ => Trie.get_missing hk p
      rw [hrest]
      rfl
    | some next =>
      have hrest : (fun p => t.get none (b :: p)) = next.get none := by
        funext p
        exact Trie.get_child hk p
      dsimp only
      rw [ih, hrest]
      cases (longestFirst bs).findSome? (next.get none) with
      | some v => rfl
      | none => rfl

theorem IPTrie.find_root (bs : List Bool) (t : IPTrie α) :
    (IPTrie.findBits bs t none <|> t.val) = (longestFirst bs).findSome? (t.get none) := by
  rw [findBits_eq]
  cases h : (longestFirst bs).findSome? (t.get none) with
  | some v => rfl
  | none =>
    have hroot : t.get none [] = none :=
      List.findSome?_eq_none_iff.mp h [] (List.mem_reverse.mpr (List.mem_inits [] bs |>.mpr (List.nil_prefix)))
    exact hroot

end

theorem getIPPolicy_eq (m : IPTrie Policy × IPTrie Policy) (ip : Bytes) :
    getIPPolicy m ip = (ipSearch ip).findSome? (lookIP m) := by
  unfold getIPPolicy ipSearch
  by_cases h6 : isIPv6 ip = true
  · rw [if_pos h6]
    unfold IPv6Trie.find
    cases parseAddr ip with
    | none => rfl
    | some a =>
      dsimp only
      rw [if_pos h6]
      by_cases h4 : a.unmap.is4 = true
      · rw [if_pos h4, if_pos h4]
        rfl
      · rw [if_neg h4, if_neg h4, IPTrie.find_root, List.findSome?_map]
        rfl
  · rw [if_neg h6]
    unfold IPv4Trie.find
    cases parseAddr ip with
    | none => rfl
    | some a =>
      dsimp only
      rw [if_neg h6]
      by_cases h4 : a.unmap.is4 = true
      · rw [if_pos h4, if_pos h4, IPTrie.find_root, List.findSome?_map]
        rfl
      · rw [if_neg h4, if_neg h4]
        rfl

theorem insertIPRule_look (ipOrNet : Bytes) (policy : Policy) (m : IPTrie Policy × IPTrie Policy)
    (s : IPSlot) : lookIP (insertIPRule ipOrNet policy m) s =
      if s ∈ ipSlots ipOrNet then some policy else lookIP m s := by
  obtain ⟨six, path⟩ := s
  have hmem : ∀ (l : List (List Bool)) (b : Bool),
      path ∈ l ∧ b = six ↔ IPSlot.mk six path ∈ l.map (IPSlot.mk b) := by
    intro l b
    simp [List.mem_map, and_comm]
  unfold insertIPRule ipSlots
  by_cases h6 : isIPv6 ipOrNet = true
  · rw [if_pos h6]
    simp only [if_pos h6]
    cases six with
    | true =>
      refine (IPTrie.insert_get 128 parseIPv6OrCIDR ipOrNet policy m.2 path).trans ?_
      exact if_congr ((and_iff_left rfl).symm.trans (hmem _ true)) rfl rfl
    | false => exact (if_neg fun h => nomatch ((hmem _ true).mpr h).2).symm
  · rw [if_neg h6]
    simp only [if_neg h6]
    cases six with
    | true => exact (if_neg fun h => nomatch ((hmem _ false).mpr h).2).symm
    | false =>
      refine (IPTrie.insert_get 32 parseIPv4OrCIDR ipOrNet policy m.1 path).trans ?_
      exact if_congr ((and_iff_left rfl).symm.trans (hmem _ false)) rfl rfl

/-! ## both -/

def DomainAgree (rules : List (Bytes × Policy)) : Prop :=
  ∀ domain, Agree (ruleSlots domainSlots) (·.2) rules (domainSearch domain)

def IPAgree (rules : List (Bytes × Policy)) : Prop :=
  ∀ ip, Agree (ruleSlots ipSlots) (·.2) rules (ipSearch ip)

theorem buildDomainMatcher_look (rules : List (Bytes × Policy)) :
    (buildDomainMatcher rules).look = lastValue (ruleSlots domainSlots) (·.2) rules := by
  funext s
  exact (addRule_fills DomainMatcher.add_look).foldl newDomainMatcher_look rules s

theorem buildIPMatchers_look (rules : List (Bytes × Policy)) :
    lookIP (buildIPMatchers rules) = lastValue (ruleSlots ipSlots) (·.2) rules := by
  funext s
  refine (addRule_fills insertIPRule_look).foldl (fun s => ?_) rules s
  unfold lookIP
  rw [Trie.get_leaf, ite_self]

/-- **Every order of the rules gives the same policy for every name exactly if rules with a pattern
for its most specific place have the same policy; and likewise for addresses.** -/
theorem matchers_order_iff (rules : List (Bytes × Policy)) :
    ((∀ l l' : List (Bytes × Policy), l.Perm rules → l'.Perm rules →
      ∀ domain, (buildDomainMatcher l).find domain = (buildDomainMatcher l').find domain) ↔
      DomainAgree rules) ∧
    ((∀ l l' : List (Bytes × Policy), l.Perm rules → l'.Perm rules →
      ∀ ip, getIPPolicy (buildIPMatchers l) ip = getIPPolicy (buildIPMatchers l') ip) ↔
      IPAgree rules) := by
  simp only [DomainMatcher.find_eq, getIPPolicy_eq, buildDomainMatcher_look, buildIPMatchers_look]
  constructor
  · constructor
    · intro h domain
      exact (found_perm_iff rules _).mp fun l l' hl hl' => h l l' hl hl' domain
    · intro h l l' hl hl' domain
      exact (found_perm_iff rules _).mpr (h domain) l l' hl hl'
  · constructor
    · intro h ip
      exact (found_perm_iff rules _).mp fun l l' hl hl' => h l l' hl hl' ip
    · intro h l l' hl hl' ip
      exact (found_perm_iff rules _).mpr (h ip) l l' hl hl'

/-! ## two keys for one place -/

/-- a name that is in two keys, and two texts for one block of addresses -/
theorem order_matters :
    (buildDomainMatcher [(lit "a.example", { mode := .block }),
      (lit "(a|b).example", { mode := .tlsrf })]).find (lit "a.example") = some { mode := .tlsrf } ∧
    (buildDomainMatcher [(lit "(a|b).example", { mode := .tlsrf }),
      (lit "a.example", { mode := .block })]).find (lit "a.example") = some { mode := .block } ∧
    getIPPolicy (buildIPMatchers [(lit "192.0.2.0/24", { mode := .block }),
      (lit "192.0.2.1/24", { mode := .raw })]) (lit "192.0.2.9") = some { mode := .raw } ∧
    getIPPolicy (buildIPMatchers [(lit "192.0.2.1/24", { mode := .raw }),
      (lit "192.0.2.0/24", { mode := .block })]) (lit "192.0.2.9") = some { mode := .block } := by
  refine ⟨?_, ?_, ?_, ?_⟩
  · decide +kernel
  · decide +kernel
  · decide +kernel
  · decide +kernel

end Bill
