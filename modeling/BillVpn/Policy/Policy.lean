import BillVpn.Go.Basic

/-!
# Policies and how they are merged

A `Policy` says how one destination is reached.  Every field has an UNSET value, and the unset
values differ: `0` for the counters, `-1` (`unsetInt`) for the fields that may legally be `0`,
`nil` for the two texts, the first member for the enumerations.  `mergePolicies` takes a list of
policies, most specific first, and keeps for every field the first value that is not unset.

* `mergeStep`          the body of the loop of `mergePolicies`;
* `pick`               one field of it;
* `mergePolicies`      with the built-in defaults of `mode` and `dns_mode` at the end;
* `firstSet`           what the loop computes for one field, as a function of the list.
-/

set_option linter.unusedVariables false

namespace Bill
open Go

/-- `unsetInt` -/
def unsetInt : Int := -1

inductive Mode where
  | unknown | raw | direct | tlsrf | ttld | block | tlsAlert
deriving DecidableEq, Repr

/-- `ModeDefault` -/
def Mode.default : Mode := .tlsrf

inductive BoolWithDefault where
  | unset | false | true
deriving DecidableEq, Repr

inductive DNSMode where
  | unknown | preferIPv4 | preferIPv6 | ipv4Only | ipv6Only
deriving DecidableEq, Repr

/-- `DNSModeDefault` -/
def DNSMode.default : DNSMode := .preferIPv4

/-- Durations are nanoseconds; `host` and `mapTo` are the pointers of the source. -/
structure Policy where
  replyFirst : BoolWithDefault := .unset
  dnsMode : DNSMode := .unknown
  connectTimeout : Int := 0
  host : Option Bytes := none
  mapTo : Option Bytes := none
  port : Int := 0
  httpStatus : Int := 0
  tls13Only : BoolWithDefault := .unset
  mode : Mode := .unknown
  numRecords : Int := 0
  numSegments : Int := 0
  oob : BoolWithDefault := .unset
  oobEx : BoolWithDefault := .unset
  modMinorVer : BoolWithDefault := .unset
  sendInterval : Int := 0
  fakeTTL : Int := 0
  fakeSleep : Int := 0
  maxTTL : Int := 0
  attempts : Int := 0
  singleTimeout : Int := 0
deriving DecidableEq, Repr

/-- `if merged.F == unset && p.F != unset { merged.F = p.F }` -/
def pick {α : Type} [DecidableEq α] (unset merged p : α) : α :=
  if merged = unset ∧ p ≠ unset then p else merged

/-- one turn of the loop of `mergePolicies`; a port is unset at `0` here, not at `unsetInt` -/
def mergeStep (merged p : Policy) : Policy where
  replyFirst := pick .unset merged.replyFirst p.replyFirst
  connectTimeout := pick unsetInt merged.connectTimeout p.connectTimeout
  host := pick none merged.host p.host
  mapTo := pick none merged.mapTo p.mapTo
  port := pick 0 merged.port p.port
  httpStatus := pick unsetInt merged.httpStatus p.httpStatus
  tls13Only := pick .unset merged.tls13Only p.tls13Only
  mode := pick .unknown merged.mode p.mode
  dnsMode := pick .unknown merged.dnsMode p.dnsMode
  numRecords := pick 0 merged.numRecords p.numRecords
  numSegments := pick 0 merged.numSegments p.numSegments
  oob := pick .unset merged.oob p.oob
  oobEx := pick .unset merged.oobEx p.oobEx
  modMinorVer := pick .unset merged.modMinorVer p.modMinorVer
  sendInterval := pick unsetInt merged.sendInterval p.sendInterval
  fakeSleep := pick 0 merged.fakeSleep p.fakeSleep
  fakeTTL := pick unsetInt merged.fakeTTL p.fakeTTL
  maxTTL := pick 0 merged.maxTTL p.maxTTL
  attempts := pick 0 merged.attempts p.attempts
  singleTimeout := pick unsetInt merged.singleTimeout p.singleTimeout

/-- the policy the loop starts from -/
def mergeInit : Policy :=
  { httpStatus := unsetInt, sendInterval := unsetInt, fakeTTL := unsetInt,
    connectTimeout := unsetInt, singleTimeout := unsetInt }

/-- the two fields that get a built-in default after the loop -/
def applyPolicyDefaults (p : Policy) : Policy :=
  { p with
    mode := if p.mode = .unknown then Mode.default else p.mode
    dnsMode := if p.dnsMode = .unknown then DNSMode.default else p.dnsMode }

def mergePolicies (ps : List Policy) : Policy := applyPolicyDefaults (ps.foldl mergeStep mergeInit)

/-! ## what the loop computes -/

/-- the first value in the list that is not `unset` -/
def firstSet {α : Type} [DecidableEq α] (unset : α) (l : List α) : α :=
  (l.find? (· ≠ unset)).getD unset

section
variable {α : Type} [DecidableEq α]

theorem pick_unset (u x : α) : pick u u x = x := by
  unfold pick
  by_cases h : x = u
  · rw [h]; simp
  · rw [if_pos ⟨rfl, h⟩]

theorem pick_set {u m : α} (h : m ≠ u) (x : α) : pick u m x = m :=
  if_neg fun hc => h hc.1

theorem firstSet_nil (u : α) : firstSet u [] = u := rfl

theorem firstSet_cons_unset (u : α) (l : List α) : firstSet u (u :: l) = firstSet u l := by
  unfold firstSet
  rw [List.find?_cons_of_neg (by simp)]

theorem firstSet_cons_set {u x : α} (h : x ≠ u) (l : List α) : firstSet u (x :: l) = x := by
  unfold firstSet
  rw [List.find?_cons_of_pos (by simpa using h)]
  rfl

theorem foldl_pick (u m : α) (l : List α) :
    l.foldl (pick u) m = if m = u then firstSet u l else m := by
  induction l generalizing m with
  | nil => by_cases h : m = u <;> simp [h, firstSet_nil]
  | cons x l ih =>
    rw [List.foldl_cons, ih]
    by_cases hm : m = u
    · subst hm
      rw [pick_unset, if_pos rfl]
      by_cases hx : x = m
      · rw [if_pos hx, hx, firstSet_cons_unset]
      · rw [if_neg hx, firstSet_cons_set hx]
    · rw [pick_set hm, if_neg hm, if_neg hm]

theorem firstSet_eq_unset {u : α} {l : List α} : firstSet u l = u ↔ ∀ x ∈ l, x = u := by
  induction l with
  | nil => simp [firstSet_nil]
  | cons x l ih =>
    by_cases h : x = u
    · rw [h, firstSet_cons_unset, ih]; simp
    · rw [firstSet_cons_set h]; simp [h]

theorem firstSet_singleton (u x : α) : firstSet u [x] = x := by
  by_cases hx : x = u
  · rw [hx, firstSet_cons_unset, firstSet_nil]
  · rw [firstSet_cons_set hx]

theorem firstSet_firstSet_cons (u : α) (l m : List α) :
    firstSet u (firstSet u l :: m) = firstSet u (l ++ m) := by
  induction l with
  | nil => rw [firstSet_nil, firstSet_cons_unset, List.nil_append]
  | cons x l ih =>
    by_cases hx : x = u
    · rw [hx, firstSet_cons_unset, ih, List.cons_append, firstSet_cons_unset]
    · rw [firstSet_cons_set hx, firstSet_cons_set hx, List.cons_append, firstSet_cons_set hx]

theorem firstSet_mem {u : α} {l : List α} (h : firstSet u l ≠ u) : firstSet u l ∈ l := by
  induction l with
  | nil => exact absurd (firstSet_nil u) h
  | cons x l ih =>
    by_cases hx : x = u
    · rw [hx, firstSet_cons_unset] at h ⊢
      exact List.mem_cons_of_mem _ (ih h)
    · rw [firstSet_cons_set hx]; exact List.mem_cons_self

end

theorem foldl_mergeStep_field {α : Type} [DecidableEq α] (f : Policy → α) (u : α)
    (hf : ∀ m p, f (mergeStep m p) = pick u (f m) (f p)) (m : Policy) (ps : List Policy) :
    f (ps.foldl mergeStep m) = (ps.map f).foldl (pick u) (f m) := by
  induction ps generalizing m with
  | nil => rfl
  | cons p ps ih =>
    show f (ps.foldl mergeStep (mergeStep m p)) = (ps.map f).foldl (pick u) (pick u (f m) (f p))
    rw [ih, hf]

/-- **First set wins**, for every field whose start value is its unset value and that no default
touches afterwards. -/
theorem merge_field {α : Type} [DecidableEq α] (f : Policy → α) (u : α)
    (hf : ∀ m p, f (mergeStep m p) = pick u (f m) (f p)) (h0 : f mergeInit = u)
    (hd : ∀ p, f (applyPolicyDefaults p) = f p) (ps : List Policy) :
    f (mergePolicies ps) = firstSet u (ps.map f) := by
  unfold mergePolicies
  rw [hd, foldl_mergeStep_field f u hf, foldl_pick, h0, if_pos rfl]

theorem merge_numRecords (ps : List Policy) :
    (mergePolicies ps).numRecords = firstSet 0 (ps.map (·.numRecords)) :=
  merge_field (·.numRecords) 0 (fun _ _ => rfl) rfl (fun _ => rfl) ps

theorem merge_numSegments (ps : List Policy) :
    (mergePolicies ps).numSegments = firstSet 0 (ps.map (·.numSegments)) :=
  merge_field (·.numSegments) 0 (fun _ _ => rfl) rfl (fun _ => rfl) ps

theorem merge_connectTimeout (ps : List Policy) :
    (mergePolicies ps).connectTimeout = firstSet unsetInt (ps.map (·.connectTimeout)) :=
  merge_field (·.connectTimeout) unsetInt (fun _ _ => rfl) rfl (fun _ => rfl) ps

theorem merge_httpStatus (ps : List Policy) :
    (mergePolicies ps).httpStatus = firstSet unsetInt (ps.map (·.httpStatus)) :=
  merge_field (·.httpStatus) unsetInt (fun _ _ => rfl) rfl (fun _ => rfl) ps

theorem merge_host (ps : List Policy) : (mergePolicies ps).host = firstSet none (ps.map (·.host)) :=
  merge_field (·.host) none (fun _ _ => rfl) rfl (fun _ => rfl) ps

theorem merge_field_default {α : Type} [DecidableEq α] (f : Policy → α) (u d : α)
    (hf : ∀ m p, f (mergeStep m p) = pick u (f m) (f p)) (h0 : f mergeInit = u)
    (hd : ∀ p, f (applyPolicyDefaults p) = if f p = u then d else f p) (ps : List Policy) :
    f (mergePolicies ps) =
      if firstSet u (ps.map f) = u then d else firstSet u (ps.map f) := by
  unfold mergePolicies
  rw [hd, foldl_mergeStep_field f u hf, foldl_pick, h0, if_pos rfl]

theorem merge_mode (ps : List Policy) :
    (mergePolicies ps).mode =
      if firstSet .unknown (ps.map (·.mode)) = .unknown then Mode.default
      else firstSet .unknown (ps.map (·.mode)) :=
  merge_field_default (·.mode) .unknown Mode.default (fun _ _ => rfl) rfl (fun _ => rfl) ps

theorem merge_mode_ne_unknown (ps : List Policy) : (mergePolicies ps).mode ≠ .unknown := by
  rw [merge_mode]
  split
  · decide
  · assumption

theorem merge_mode_eq {ps : List Policy} {m : Mode} (hm : m ≠ .default)
    (h : (mergePolicies ps).mode = m) : firstSet .unknown (ps.map (·.mode)) = m := by
  rw [merge_mode] at h
  split at h
  · exact absurd h.symm hm
  · exact h

/-! ## a policy can be told from its merges -/

theorem pick_none {α : Type} [DecidableEq α] (u m : α) : pick u m u = m :=
  if_neg fun hc => hc.2 rfl

def Policy.withModes (p : Policy) (m : Mode) (n : DNSMode) : Policy := { p with mode := m, dnsMode := n }

def modeOr (m n : Mode) : Mode :=
  if pick .unknown m n = .unknown then Mode.default else pick .unknown m n

def dnsModeOr (m n : DNSMode) : DNSMode :=
  if pick .unknown m n = .unknown then DNSMode.default else pick .unknown m n

theorem merge_withModes (d : Policy) (m : Mode) (n : DNSMode) :
    mergePolicies [d, mergeInit.withModes m n] = d.withModes (modeOr d.mode m) (dnsModeOr d.dnsMode n) := by
  have hinit : mergeStep mergeInit d = d := by
    cases d
    simp only [mergeStep, mergeInit, pick_unset]
  have hstep : mergeStep d (mergeInit.withModes m n) =
      d.withModes (pick .unknown d.mode m) (pick .unknown d.dnsMode n) := by
    cases d
    simp only [mergeStep, mergeInit, Policy.withModes, pick_none]
  show applyPolicyDefaults (mergeStep (mergeStep mergeInit d) _) = _
  rw [hinit, hstep]
  rfl

theorem modeOr_separates {a b : Mode} (h : modeOr a .unknown = modeOr b .unknown)
    (h' : modeOr a .raw = modeOr b .raw) : a = b := by
  revert h h'
  cases a <;> cases b <;> decide

theorem dnsModeOr_separates {a b : DNSMode} (h : dnsModeOr a .unknown = dnsModeOr b .unknown)
    (h' : dnsModeOr a .ipv6Only = dnsModeOr b .ipv6Only) : a = b := by
  revert h h'
  cases a <;> cases b <;> decide

/-- **Two policies that merge alike with every other one are the same.** -/
theorem merge_separates {d e : Policy} (h : ∀ q, mergePolicies [d, q] = mergePolicies [e, q]) :
    d = e := by
  have h1 := h (mergeInit.withModes .unknown .unknown)
  have h2 := h (mergeInit.withModes .raw .ipv6Only)
  rw [merge_withModes, merge_withModes] at h1 h2
  have hmode : d.mode = e.mode :=
    modeOr_separates (congrArg Policy.mode h1) (congrArg Policy.mode h2)
  have hdns : d.dnsMode = e.dnsMode :=
    dnsModeOr_separates (congrArg Policy.dnsMode h1) (congrArg Policy.dnsMode h2)
  have hrest := congrArg (fun p : Policy => p.withModes d.mode d.dnsMode) h1
  calc d = d.withModes d.mode d.dnsMode := rfl
    _ = e.withModes d.mode d.dnsMode := hrest
    _ = e.withModes e.mode e.dnsMode := by rw [hmode, hdns]
    _ = e := rfl

end Bill
