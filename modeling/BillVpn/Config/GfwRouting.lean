import BillVpn.Config.GfwList
import BillVpn.Config.Order
import BillVpn.Config.Settings
import BillVpn.Go.Case

/-!
# Which names the embedded list blocks

A matcher with the pattern `*h` finds `h` and the names below it; the hosts of the list are dotted
names, so the matchers take every one of them.  A name is routed by the list iff a rule has it or a
parent of it as its host, and no exception has.

* `Covers h d`          `d` is `h` or ends in `.h`;
* `labelPath_covers`    the trie reads a name by labels, and meets `*h` exactly on those names;
* `matcher_find`        a matcher with such patterns finds what one of them covers;
* `gfwlist_routes`      the main result.
-/

set_option linter.unusedVariables false

namespace Bill
open Go Proc

/-- `d` is `h`, or a name below it -/
def Covers (h d : Bytes) : Prop := d = h ∨ dot :: h <:+ d

/-! ## names and their labels -/

/-- the name with these labels, from the right -/
def pathText : List Bytes → Bytes
  | [] => []
  | [label] => label
  | label :: next :: path => pathText (next :: path) ++ dot :: label

theorem pathText_cons {path : List Bytes} (label : Bytes) (hpath : path ≠ []) :
    pathText (label :: path) = pathText path ++ dot :: label := by
  cases path with
  | nil => exact absurd rfl hpath
  | cons next path => rfl

-- the cases below are those of `labelsFrom`: the text is used up; its last character, a dot or
-- not; a character before others, a dot or not
theorem labelsFrom_ne_nil (label r : Bytes) : (labelsFrom label r).map (·.1) ≠ [] := by
  fun_induction labelsFrom label r with
  | case1 label => exact List.cons_ne_nil _ _
  | case2 label => exact List.cons_ne_nil _ _
  | case3 label c hc => exact List.cons_ne_nil _ _
  | case4 label d s ih => exact List.cons_ne_nil _ _
  | case5 label c d s hc ih => exact ih

theorem pathText_labelsFrom (label r : Bytes) :
    r.reverse ++ label = pathText ((labelsFrom label r).map (·.1)) ∨
    r.reverse ++ label = dot :: pathText ((labelsFrom label r).map (·.1)) := by
  fun_induction labelsFrom label r with
  | case1 label => exact .inl rfl
  | case2 label => exact .inr rfl
  | case3 label c hc => exact .inl rfl
  | case4 label d s ih =>
    rw [List.append_nil] at ih
    rw [List.reverse_cons, List.append_assoc, List.map_cons,
      pathText_cons _ (labelsFrom_ne_nil _ _)]
    rcases ih with h | h
    · exact .inl (by rw [h]; rfl)
    · exact .inr (by rw [h]; rfl)
  | case5 label c d s hc ih =>
    rw [List.reverse_cons, List.append_assoc]
    exact ih

theorem wildcardPaths_ne_nil {ls : List (Bytes × Bool)} {path : List Bytes}
    (h : path ∈ wildcardPaths ls) : path ≠ [] := by
  cases ls with
  | nil => cases h
  | cons l ls =>
    rcases List.mem_append.mp h with h | h
    · obtain ⟨p, -, rfl⟩ := List.mem_map.mp h
      exact List.cons_ne_nil _ _
    · split_ifs at h
      · rw [List.mem_singleton.mp h]
        exact List.cons_ne_nil _ _
      · cases h

/-- a wildcard counts where a dot stands before its labels -/
theorem pathText_wildcard {path : List Bytes} (label r : Bytes)
    (h : path ∈ wildcardPaths (labelsFrom label r)) :
    dot :: pathText path <:+ r.reverse ++ label := by
  fun_induction labelsFrom label r generalizing path with
  | case1 label => cases h
  | case2 label =>
    rw [List.mem_singleton.mp h]
    exact List.suffix_rfl
  | case3 label c hc => cases h
  | case4 label d s ih =>
    rw [List.reverse_cons, List.append_assoc]
    rcases List.mem_append.mp h with h | h
    · obtain ⟨p, hp, rfl⟩ := List.mem_map.mp h
      obtain ⟨t, ht⟩ := ih hp
      rw [List.append_nil] at ht
      rw [pathText_cons _ (wildcardPaths_ne_nil hp), ← ht]
      exact ⟨t, by simp⟩
    · rw [List.mem_singleton.mp h]
      exact ⟨(d :: s).reverse, rfl⟩
  | case5 label c d s hc ih =>
    rw [List.reverse_cons, List.append_assoc]
    exact ih h

theorem wildcardPaths_dot (label t : Bytes) :
    [label] ∈ wildcardPaths (labelsFrom label (dot :: t)) := by
  cases t with
  | nil => exact List.mem_singleton_self _
  | cons c t =>
    rw [labelsFrom, if_pos rfl]
    exact List.mem_append_right _ (List.mem_singleton_self _)

theorem wildcardPaths_append (label q t : Bytes) (hq : ∀ c ∈ q.getLast?, c ≠ dot) :
    (labelsFrom label q).map (·.1) ∈ wildcardPaths (labelsFrom label (q ++ dot :: t)) := by
  fun_induction labelsFrom label q with
  | case1 label => exact wildcardPaths_dot label t
  | case2 label => exact absurd rfl (hq dot rfl)
  | case3 label c hc =>
    show [c :: label] ∈ wildcardPaths (labelsFrom label (c :: dot :: t))
    rw [labelsFrom, if_neg hc]
    exact wildcardPaths_dot (c :: label) t
  | case4 label d s ih =>
    show label :: (labelsFrom [] (d :: s)).map (·.1) ∈
      wildcardPaths (labelsFrom label (dot :: d :: (s ++ dot :: t)))
    rw [labelsFrom, if_pos rfl]
    exact List.mem_append_left _ (List.mem_map_of_mem (ih hq))
  | case5 label c d s hc ih =>
    show _ ∈ wildcardPaths (labelsFrom label (c :: d :: (s ++ dot :: t)))
    rw [labelsFrom, if_neg hc]
    exact ih hq

theorem labels_of_ne {d : Bytes} (hd : d ≠ []) : labels d = labelsFrom [] d.reverse := if_neg hd

theorem Dotted.ne_nil {h : Bytes} (hh : Dotted h) : h ≠ [] := List.ne_nil_of_mem hh.inside

theorem Dotted.pathText {h : Bytes} (hh : Dotted h) : pathText (labelPath h) = h := by
  unfold labelPath
  rw [labels_of_ne hh.ne_nil]
  have hspell := pathText_labelsFrom [] h.reverse
  rw [List.append_nil, List.reverse_reverse] at hspell
  rcases hspell with hspell | hspell
  · exact hspell.symm
  · exact absurd rfl (hh.front dot (by rw [hspell]; rfl))

/-- **The search for a name meets the pattern `*h` iff the name is `h` or below it.** -/
theorem labelPath_covers {h : Bytes} (hh : Dotted h) (d : Bytes) :
    labelPath d = labelPath h ∨ labelPath h ∈ wildcardPaths (labels d) ↔ Covers h d := by
  constructor
  · rintro (heq | hmem)
    · have hd : d ≠ [] := by
        rintro rfl
        have hnil : labelPath h = [] := heq.symm
        exact hh.ne_nil (by rw [← hh.pathText, hnil]; rfl)
      have hspell := pathText_labelsFrom [] d.reverse
      rw [List.append_nil, List.reverse_reverse, ← labels_of_ne hd] at hspell
      change d = Bill.pathText (labelPath d) ∨ d = dot :: Bill.pathText (labelPath d) at hspell
      rw [heq, hh.pathText] at hspell
      rcases hspell with hspell | hspell
      · exact .inl hspell
      · exact .inr (hspell ▸ List.suffix_rfl)
    · have hd : d ≠ [] := by
        rintro rfl
        cases hmem
      rw [labels_of_ne hd] at hmem
      have hsuffix := pathText_wildcard [] d.reverse hmem
      rw [List.append_nil, List.reverse_reverse, hh.pathText] at hsuffix
      exact .inr hsuffix
  · rintro (rfl | ⟨t, rfl⟩)
    · exact .inl rfl
    · have hfront : ∀ c ∈ h.reverse.getLast?, c ≠ dot := by
        rw [List.getLast?_reverse]
        exact hh.front
      have hmem := wildcardPaths_append [] h.reverse t.reverse hfront
      have hrev : (t ++ dot :: h).reverse = h.reverse ++ dot :: t.reverse := by simp
      rw [← hrev, ← labels_of_ne hh.ne_nil, ← labels_of_ne (by simp)] at hmem
      exact .inr hmem

/-! ## matchers with such patterns -/

theorem domainSlots_star {h : Bytes} (hh : Dotted h) :
    domainSlots (star ++ h) = [.wildcard (labelPath h), .exact (labelPath h)] := by
  obtain ⟨c, t, rfl⟩ := List.exists_cons_of_ne_nil hh.ne_nil
  have hc : c ≠ dot := hh.front c rfl
  have hne : star ++ (c :: t) ≠ star := by
    intro h
    have hlen := congrArg List.length h
    simp at hlen
  have hdot : ¬ dot ∉ star ++ (c :: t) := fun h => h (List.mem_append_right _ hh.inside)
  have hno : ¬ lit "*." <+: star ++ (c :: t) := by
    rintro ⟨u, hu⟩
    have h2 : dot :: u = c :: t := (List.cons.inj hu).2
    exact hc (List.cons.inj h2).1.symm
  have hstar : star <+: star ++ (c :: t) := List.prefix_append _ _
  unfold domainSlots
  rw [if_neg hne, if_neg hdot, if_neg hno, if_pos hstar]
  rfl

section
variable {α : Type}

theorem find_isSome (m : DomainMatcher α) (d : Bytes) :
    (m.find d).isSome = true ↔ ∃ s ∈ domainSearch d, (m.look s).isSome = true := by
  rw [DomainMatcher.find_eq, List.isSome_findSome?, List.any_eq_true]

theorem add_accepts {pattern : Bytes} (hdot : dot ∈ pattern) (value : α) (m : DomainMatcher α) :
    ∃ m', m.add pattern value = .ok m' := by
  unfold DomainMatcher.add
  by_cases h1 : pattern = star
  · exact ⟨_, if_pos h1⟩
  · rw [if_neg h1, if_neg (not_not.mpr hdot)]
    split_ifs <;> exact ⟨_, rfl⟩

end

def matcherOf (patterns : List Bytes) : DomainMatcher Unit :=
  patterns.foldl (fun m p => orKeep (DomainMatcher.add p ()) m) newDomainMatcher

theorem addPatterns_eq {patterns : List Bytes} (hp : ∀ p ∈ patterns, dot ∈ p) :
    ∀ m : DomainMatcher Unit, addPatterns patterns (some m)
      = (.ok (), some (patterns.foldl (fun m p => orKeep (DomainMatcher.add p ()) m) m)) := by
  induction patterns with
  | nil => exact fun m => rfl
  | cons p patterns ih =>
    intro m
    obtain ⟨m', hm'⟩ := add_accepts (hp p List.mem_cons_self) () m
    have hkeep : orKeep (DomainMatcher.add p ()) m = m' := by
      unfold orKeep
      rw [hm']
    unfold addPatterns
    rw [List.foldl_cons, hkeep, Option.getD_some, hm']
    exact ih (fun q hq => hp q (List.mem_cons_of_mem _ hq)) m'

theorem look_matcherOf (patterns : List Bytes) (s : DomainSlot) :
    ((matcherOf patterns).look s).isSome = true ↔ ∃ p ∈ patterns, s ∈ domainSlots p := by
  unfold matcherOf
  induction patterns using List.reverseRecOn with
  | nil =>
    rw [List.foldl_nil, newDomainMatcher_look]
    simp
  | append_singleton patterns p ih =>
    rw [List.foldl_append, List.foldl_cons, List.foldl_nil, DomainMatcher.add_look]
    by_cases hs : s ∈ domainSlots p
    · rw [if_pos hs]
      exact ⟨fun _ => ⟨p, List.mem_append_right _ (List.mem_singleton_self p), hs⟩, fun _ => rfl⟩
    · rw [if_neg hs, ih]
      simp [hs]

/-- **A matcher with patterns `*h` finds what one of the names covers.** -/
theorem matcher_find {patterns : List Bytes}
    (hp : ∀ p ∈ patterns, ∃ h, Dotted h ∧ p = star ++ h) (d : Bytes) :
    ((matcherOf patterns).find d).isSome = true ↔
      ∃ h, star ++ h ∈ patterns ∧ Covers h d := by
  rw [find_isSome]
  constructor
  · rintro ⟨s, hs, hlook⟩
    obtain ⟨p, hmem, hslot⟩ := (look_matcherOf patterns s).mp hlook
    obtain ⟨h, hh, rfl⟩ := hp p hmem
    refine ⟨h, hmem, (labelPath_covers hh d).mp ?_⟩
    rw [domainSlots_star hh] at hslot
    have hne : labelPath h ≠ [] := fun hnil => hh.ne_nil (by rw [← hh.pathText, hnil]; rfl)
    simp only [domainSearch, List.cons_append, List.mem_cons, List.mem_append, List.mem_map,
      List.not_mem_nil, or_false] at hs hslot
    rcases hslot with rfl | rfl
    · rcases hs with hs | ⟨path, hpath, heq⟩ | hs
      · cases hs
      · cases heq
        exact .inr hpath
      · exact absurd (DomainSlot.wildcard.inj hs) hne
    · rcases hs with hs | ⟨path, hpath, heq⟩ | hs
      · exact .inl (DomainSlot.exact.inj hs).symm
      · cases heq
      · cases hs
  · rintro ⟨h, hmem, hcovers⟩
    obtain ⟨h', hh, heq⟩ := hp _ hmem
    obtain rfl := List.append_cancel_left heq
    have hslots := domainSlots_star hh
    rcases (labelPath_covers hh d).mpr hcovers with hpath | hpath
    · refine ⟨.exact (labelPath d), List.mem_cons_self, (look_matcherOf patterns _).mpr
        ⟨_, hmem, ?_⟩⟩
      rw [hslots, hpath]
      exact List.mem_cons_of_mem _ List.mem_cons_self
    · refine ⟨.wildcard (labelPath h), List.mem_append_left _ (List.mem_cons_of_mem _
        (List.mem_map_of_mem hpath)), (look_matcherOf patterns _).mpr ⟨_, hmem, ?_⟩⟩
      rw [hslots]
      exact List.mem_cons_self

/-! ## the loader -/

section
variable {κ τ : Type} {calls : Callees κ τ}

theorem loadBuiltinGFWList_eq {blocked bypass : List Bytes}
    (hparse : calls.parseEmbeddedGFWList = .ok (blocked, bypass)) (hblocked : ∀ p ∈ blocked, dot ∈ p)
    (hbypass : ∀ p ∈ bypass, dot ∈ p) (g : Globals κ τ) :
    loadBuiltinGFWList calls g = (.ok (), { g with
      gfwDomainMatcher := some (matcherOf blocked), gfwBypassMatcher := some (matcherOf bypass) }) := by
  have hfirst : zoom (fun s : Globals κ τ => s.gfwDomainMatcher)
      (fun m s => { s with gfwDomainMatcher := m }) (addPatterns blocked)
      { g with gfwDomainMatcher := some newDomainMatcher }
      = (.ok (), { g with gfwDomainMatcher := some (matcherOf blocked) }) :=
    zoom_eq (addPatterns_eq hblocked newDomainMatcher)
  have hsecond : zoom (fun s : Globals κ τ => s.gfwBypassMatcher)
      (fun m s => { s with gfwBypassMatcher := m }) (addPatterns bypass)
      { g with
        gfwDomainMatcher := some (matcherOf blocked), gfwBypassMatcher := some newDomainMatcher }
      = (.ok (), { g with
        gfwDomainMatcher := some (matcherOf blocked), gfwBypassMatcher := some (matcherOf bypass) }) :=
    zoom_eq (addPatterns_eq hbypass newDomainMatcher)
  unfold loadBuiltinGFWList
  rw [run_bind_ok (Sets.lift hparse g)]
  dsimp only
  rw [run_bind_ok (run_modify _ _)]
  refine (run_bind_ok hfirst).trans ?_
  rw [run_bind_ok (run_modify _ _)]
  exact hsecond

theorem isGFWDomain_iff (std : Std) {blocked bypass : List Bytes} {g : Globals κ τ} {d : Bytes}
    (hblocked : ∀ p ∈ blocked, ∃ h, Dotted h ∧ p = star ++ h)
    (hbypass : ∀ p ∈ bypass, ∃ h, Dotted h ∧ p = star ++ h) (hd : d ≠ []) :
    Globals.isGFWDomain std { g with
      gfwDomainMatcher := some (matcherOf blocked)
      gfwBypassMatcher := some (matcherOf bypass) } d = true ↔
    (∃ h, star ++ h ∈ blocked ∧ Covers h (std.toLower d)) ∧
      ¬ ∃ h, star ++ h ∈ bypass ∧ Covers h (std.toLower d) := by
  rw [← matcher_find hblocked, ← matcher_find hbypass]
  unfold Globals.isGFWDomain
  dsimp only
  rw [if_neg hd]
  show (if ((matcherOf bypass).find (std.toLower d)).isSome = true then false
    else ((matcherOf blocked).find (std.toLower d)).isSome) = true ↔ _
  split_ifs with hfound
  · simp [hfound]
  · simp [hfound]

/-! ## the list -/

/-- the line has a rule of that kind, and its host is the name or a parent of it -/
def LineCovers (lib : ListLib) (std : Std) (bypass : Bool) (d line : Bytes) : Prop :=
  ∃ rule h, lineRule std line = some (bypass, rule) ∧ keptHost lib std rule = some h ∧ Covers h d

/-- the callees with the parser at work on a text -/
def Callees.withList (calls : Callees κ τ) (lib : ListLib) (raw : Bytes) : Callees κ τ :=
  { calls with parseEmbeddedGFWList := Bill.parseEmbeddedGFWList lib calls.std raw }

theorem linePattern_eq_some {lib : ListLib} {std : Std} {line p : Bytes} {bypass : Bool} :
    linePattern lib std line = some (bypass, p) ↔
      ∃ rule h, lineRule std line = some (bypass, rule) ∧ keptHost lib std rule = some h ∧
        p = star ++ h := by
  unfold linePattern
  cases hl : lineRule std line with
  | none => simp
  | some r =>
    obtain ⟨b, rule⟩ := r
    dsimp only
    rw [normalize_eq, Option.map_map, Option.map_eq_some_iff]
    constructor
    · rintro ⟨h, hh, heq⟩
      cases heq
      exact ⟨rule, h, rfl, hh, rfl⟩
    · rintro ⟨rule', h, heq, hh, rfl⟩
      cases heq
      exact ⟨h, hh, rfl⟩

theorem covers_parsed {lib : ListLib} {std : Std} {raw decoded d : Bytes}
    {sets : List Bytes × List Bytes} (bypass : Bool) (hd : decodeList lib raw = .ok decoded)
    (hs : parseEmbeddedGFWList lib std raw = .ok sets) :
    (∃ h, star ++ h ∈ side bypass sets ∧ Covers h d) ↔
      ∃ line ∈ listLines decoded, LineCovers lib std bypass d line := by
  constructor
  · rintro ⟨h, hmem, hcovers⟩
    obtain ⟨line, hline, hpattern⟩ := (mem_parsed hd hs).mp hmem
    obtain ⟨rule, h', hrule, hkept, heq⟩ := linePattern_eq_some.mp hpattern
    obtain rfl := List.append_cancel_left heq
    exact ⟨line, hline, rule, h, hrule, hkept, hcovers⟩
  · rintro ⟨line, hline, rule, h, hrule, hkept, hcovers⟩
    exact ⟨h, (mem_parsed hd hs).mpr ⟨line, hline, linePattern_eq_some.mpr
      ⟨rule, h, hrule, hkept, rfl⟩⟩, hcovers⟩

theorem patterns_dotted {lib : ListLib} {std : Std} {raw decoded : Bytes}
    {sets : List Bytes × List Bytes} (bypass : Bool) (hd : decodeList lib raw = .ok decoded)
    (hs : parseEmbeddedGFWList lib std raw = .ok sets) :
    ∀ p ∈ side bypass sets, ∃ h, Dotted h ∧ p = star ++ h := by
  intro p hp
  obtain ⟨line, -, hpattern⟩ := (mem_parsed hd hs).mp hp
  obtain ⟨rule, h, -, hkept, rfl⟩ := linePattern_eq_some.mp hpattern
  exact ⟨h, keptHost_dotted hkept, rfl⟩

theorem load_decoded {lib : ListLib} {raw decoded : Bytes} (hd : decodeList lib raw = .ok decoded)
    (calls : Callees κ τ) (g : Globals κ τ) :
    ∃ g', loadBuiltinGFWList (calls.withList lib raw) g = (.ok (), g') ∧
      ∀ d, d ≠ [] → (g'.isGFWDomain calls.std d = true ↔
        (∃ line ∈ listLines decoded, LineCovers lib calls.std false (calls.std.toLower d) line) ∧
        ¬ ∃ line ∈ listLines decoded, LineCovers lib calls.std true (calls.std.toLower d) line) := by
  obtain ⟨⟨blocked, bypass⟩, hs⟩ : ∃ sets, parseEmbeddedGFWList lib calls.std raw = .ok sets := by
    unfold parseEmbeddedGFWList
    rw [hd]
    exact ⟨_, rfl⟩
  have hblocked : ∀ p ∈ blocked, ∃ h, Dotted h ∧ p = star ++ h := patterns_dotted false hd hs
  have hbypass : ∀ p ∈ bypass, ∃ h, Dotted h ∧ p = star ++ h := patterns_dotted true hd hs
  have hdot : ∀ p : Bytes, (∃ h, Dotted h ∧ p = star ++ h) → dot ∈ p := by
    rintro p ⟨h, hh, rfl⟩
    exact List.mem_append_right _ hh.inside
  have hparse : (calls.withList lib raw).parseEmbeddedGFWList = .ok (blocked, bypass) := hs
  refine ⟨_, loadBuiltinGFWList_eq hparse (fun p hp => hdot p (hblocked p hp))
    (fun p hp => hdot p (hbypass p hp)) g, ?_⟩
  intro d hne
  rw [isGFWDomain_iff calls.std hblocked hbypass hne]
  exact and_congr (covers_parsed false hd hs) (not_congr (covers_parsed true hd hs))

structure RoutesByList (lib : ListLib) (calls : Callees κ τ) (raw : Bytes) (g : Globals κ τ) : Prop where
  /-- a list that decodes is never refused -/
  loads : ∀ decoded, decodeList lib raw = .ok decoded →
    ∃ g', loadBuiltinGFWList (calls.withList lib raw) g = (.ok (), g')
  /-- a list that is loaded decides by its lines -/
  decides : ∀ g', loadBuiltinGFWList (calls.withList lib raw) g = (.ok (), g') →
    ∃ decoded, decodeList lib raw = .ok decoded ∧ ∀ d, d ≠ [] →
      (g'.isGFWDomain calls.std d = true ↔
        (∃ line ∈ listLines decoded, LineCovers lib calls.std false (calls.std.toLower d) line) ∧
        ¬ ∃ line ∈ listLines decoded, LineCovers lib calls.std true (calls.std.toLower d) line)
  /-- another list with the same lines, in any order and number, loads the same -/
  lines : ∀ raw' decoded decoded', decodeList lib raw = .ok decoded →
    decodeList lib raw' = .ok decoded' →
    (∀ line, line ∈ listLines decoded ↔ line ∈ listLines decoded') →
    loadBuiltinGFWList (calls.withList lib raw) g = loadBuiltinGFWList (calls.withList lib raw') g

/-- **The embedded list routes by its rules and exceptions**, for every text, library and state. -/
theorem gfwlist_routes (lib : ListLib) (calls : Callees κ τ) (raw : Bytes) (g : Globals κ τ) :
    RoutesByList lib calls raw g where
  loads := by
    intro decoded hd
    obtain ⟨g', hload, -⟩ := load_decoded hd calls g
    exact ⟨g', hload⟩
  decides := by
    intro g' hload
    cases hd : decodeList lib raw with
    | error e =>
      have hparse : (calls.withList lib raw).parseEmbeddedGFWList
          = .err ("decode embedded gfwlist: " ++ e) := by
        show parseEmbeddedGFWList lib calls.std raw = _
        unfold parseEmbeddedGFWList
        rw [hd]
      unfold loadBuiltinGFWList at hload
      rw [hparse] at hload
      cases hload
    | ok decoded =>
      obtain ⟨g'', hload', hroutes⟩ := load_decoded hd calls g
      rw [hload'] at hload
      cases hload
      exact ⟨decoded, rfl, hroutes⟩
  lines := by
    intro raw' decoded decoded' hd hd' hlines
    unfold Callees.withList
    rw [parse_congr hd hd' hlines]

end

/-- a digit of base64 -/
def base64Digit (c : UInt8) : Nat :=
  let n := c.toNat
  if 97 ≤ n then n - 71 else if 65 ≤ n then n - 65 else if 48 ≤ n then n + 4
  else if n = 43 then 62 else 63

/-- whole groups of four digits -/
def base64Decode : Bytes → Except String Bytes
  | [] => .ok []
  | a :: b :: c :: d :: rest =>
    (base64Decode rest).map (toBytes 3 (((base64Digit a * 64 + base64Digit b) * 64 +
      base64Digit c) * 64 + base64Digit d) ++ ·)
  | _ => .error "illegal base64 data"

/-- a library for ASCII texts without padding and with plain URLs -/
def plainListLib : ListLib where
  mapRunes := fun f s => s.filterMap fun b =>
    (f (Char.ofNat b.toNat)).map fun r => UInt8.ofNat r.toNat
  decodeString := base64Decode
  parseURL := fun s => .ok ((s.dropWhile (· ≠ 47)).drop 2 |>.takeWhile (· ≠ 47))

/-- comments, two rules, an exception, an address and a regular expression -/
def sampleList : Bytes :=
  lit "W0F1dG9Qcm94eV0KISBhbGwKfHxFeGFtcGxlLmNvbV4KLmIuZXhhbXBsZTo4MApA\n" ++
    lit "QHxodHRwOi8vb2suZXhhbXBsZS5jb20veAoxOTIuMC4yLjEKL2Ev\n"

example : decodeList plainListLib sampleList = .ok (lit
    "[AutoProxy]\n! all\n||Example.com^\n.b.example:80\n@@|http://ok.example.com/x\n192.0.2.1\n/a/") := by
  decide +kernel

example : parseEmbeddedGFWList plainListLib asciiStd sampleList =
    .ok ([lit "*b.example", lit "*example.com"], [lit "*ok.example.com"]) := by decide +kernel

/-- the variables after the list is loaded into a fresh process -/
def sampleListed : Globals Unit Unit :=
  (loadBuiltinGFWList
    (Callees.withList { plainCallees with std := asciiStd } plainListLib sampleList) {}).2

theorem gfwlist_routes_sample :
    RoutesByList plainListLib { plainCallees with std := asciiStd } sampleList {} ∧
    sampleListed.isGFWDomain asciiStd (lit "www.Example.com") = true ∧
    sampleListed.isGFWDomain asciiStd (lit "a.ok.example.com") = false ∧
    sampleListed.isGFWDomain asciiStd (lit "notexample.com") = false :=
  ⟨gfwlist_routes _ _ _ _, by decide +kernel, by decide +kernel, by decide +kernel⟩

end Bill
