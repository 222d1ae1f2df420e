import BillVpn.Config.Decode
import BillVpn.Go.Case

/-!
# What is set in a file, and what a merge keeps of it

`mergePolicies` compares with unset values; what a file sets is known only to the decoder.  `Given` is
what one object sets, and `ReadPolicy` an object with the policy that was read from it.

* `firstWins`          what "the first one that sets it" means, for every field;
* `read_agrees`        the decoder writes the unset value of the merge for a field that is not set,
                       in every field but the port;
* `merge_given`        so all other fields are merged as they should be;
* `merge_first_iff`    **and the port if and only if** no object sets one, or the first one sets one
                       that is not 0, or all of them set 0.
-/

set_option linter.unusedVariables false

namespace Bill
open Go

/-! ## what an object sets -/

structure Given where
  replyFirst : Option BoolWithDefault
  dnsMode : Option DNSMode
  connectTimeout : Option Int
  host : Option Bytes
  mapTo : Option Bytes
  port : Option Int
  httpStatus : Option Int
  tls13Only : Option BoolWithDefault
  mode : Option Mode
  numRecords : Option Int
  numSegments : Option Int
  oob : Option BoolWithDefault
  oobEx : Option BoolWithDefault
  modMinorVer : Option BoolWithDefault
  sendInterval : Option Int
  fakeTTL : Option Int
  fakeSleep : Option Int
  maxTTL : Option Int
  attempts : Option Int
  singleTimeout : Option Int

/-- an enumeration is set by any value but its first -/
def unlessUnset {α : Type} [DecidableEq α] (unset v : α) : Option α := if v = unset then none else some v

/-- the length of a time that is written out -/
def durationOf (std : Std) (text : Option Bytes) : Option Int :=
  text.bind fun s => (std.parseDuration s).toOption

def PolicyJSON.given (std : Std) (t : PolicyJSON) : Given where
  replyFirst := unlessUnset .unset t.replyFirst
  dnsMode := unlessUnset .unknown t.dnsMode
  connectTimeout := durationOf std t.connectTimeout
  host := t.host
  mapTo := t.mapTo
  port := t.port
  httpStatus := t.httpStatus
  tls13Only := unlessUnset .unset t.tls13Only
  mode := unlessUnset .unknown t.mode
  numRecords := t.numRecords
  numSegments := t.numSegments
  oob := unlessUnset .unset t.oob
  oobEx := unlessUnset .unset t.oobEx
  modMinorVer := unlessUnset .unset t.modMinorVer
  sendInterval := durationOf std t.sendInterval
  fakeTTL := t.fakeTTL
  fakeSleep := durationOf std t.fakeSleep
  maxTTL := t.maxTTL
  attempts := t.attempts
  singleTimeout := durationOf std t.singleTimeout

/-- an object and the policy that `Policy.UnmarshalJSON` makes of it -/
structure ReadPolicy (std : Std) where
  json : Json
  fields : PolicyJSON
  policy : Policy
  decoded : decodePolicyJSON std json = .ok fields
  read : unmarshalPolicy std {} json = .ok policy

def ReadPolicy.given {std : Std} (r : ReadPolicy std) : Given := r.fields.given std

/-- the first object that sets a field decides it; a field that none sets is unset, and the two modes
have a default -/
def firstWins (gs : List Given) : Policy where
  replyFirst := (gs.findSome? (·.replyFirst)).getD .unset
  dnsMode := (gs.findSome? (·.dnsMode)).getD DNSMode.default
  connectTimeout := (gs.findSome? (·.connectTimeout)).getD unsetInt
  host := gs.findSome? (·.host)
  mapTo := gs.findSome? (·.mapTo)
  port := (gs.findSome? (·.port)).getD unsetInt
  httpStatus := (gs.findSome? (·.httpStatus)).getD unsetInt
  tls13Only := (gs.findSome? (·.tls13Only)).getD .unset
  mode := (gs.findSome? (·.mode)).getD Mode.default
  numRecords := (gs.findSome? (·.numRecords)).getD 0
  numSegments := (gs.findSome? (·.numSegments)).getD 0
  oob := (gs.findSome? (·.oob)).getD .unset
  oobEx := (gs.findSome? (·.oobEx)).getD .unset
  modMinorVer := (gs.findSome? (·.modMinorVer)).getD .unset
  sendInterval := (gs.findSome? (·.sendInterval)).getD unsetInt
  fakeTTL := (gs.findSome? (·.fakeTTL)).getD unsetInt
  fakeSleep := (gs.findSome? (·.fakeSleep)).getD 0
  maxTTL := (gs.findSome? (·.maxTTL)).getD 0
  attempts := (gs.findSome? (·.attempts)).getD 0
  singleTimeout := (gs.findSome? (·.singleTimeout)).getD unsetInt

/-! ## what the decoder writes -/

/-- `v` is the value that is given, or the unset one; and the unset one is never given -/
def Tells {α : Type} (unset : α) (given : Option α) (v : α) : Prop :=
  v = given.getD unset ∧ given ≠ some unset

theorem tells_unless {α : Type} [DecidableEq α] (unset v : α) : Tells unset (unlessUnset unset v) v := by
  unfold Tells unlessUnset
  by_cases h : v = unset
  · rw [if_pos h]
    exact ⟨h, nofun⟩
  · rw [if_neg h]
    exact ⟨rfl, fun hh => h (Option.some.inj hh)⟩

theorem checkText_same {name : String} {v w : Option Bytes} (h : checkText name v = .ok w) : w = v := by
  unfold checkText at h
  split_ifs at h
  cases h
  rfl

theorem checkInt_tells {name msg : String} {bad : Int → Bool} {unset w : Int} {v : Option Int}
    (h : checkInt name bad msg unset v = .ok w) (hbad : bad unset = true) : Tells unset v w := by
  rcases checkInt_cases h with ⟨rfl, rfl⟩ | ⟨rfl, hw⟩
  · exact ⟨rfl, nofun⟩
  · refine ⟨rfl, fun hunset => ?_⟩
    rw [Option.some.inj hunset, hbad] at hw
    cases hw

theorem checkDuration_tells {std : Std} {name msg : String} {bad : Int → Bool} {unset w : Int}
    {v : Option Bytes} (h : checkDuration std name bad msg unset v = .ok w)
    (hbad : bad unset = true) : Tells unset (durationOf std v) w := by
  rcases checkDuration_cases h with ⟨rfl, rfl⟩ | ⟨s, rfl, hs, hw⟩
  · exact ⟨rfl, nofun⟩
  · unfold durationOf
    rw [Option.bind_some, hs]
    refine ⟨rfl, fun hunset => ?_⟩
    rw [Option.some.inj hunset, hbad] at hw
    cases hw

/-- what was read, field by field, with the unset values of `mergePolicies`; the port has that of the
decoder -/
structure Agrees (g : Given) (p : Policy) : Prop where
  replyFirst : Tells .unset g.replyFirst p.replyFirst
  dnsMode : Tells .unknown g.dnsMode p.dnsMode
  connectTimeout : Tells unsetInt g.connectTimeout p.connectTimeout
  host : p.host = g.host
  mapTo : p.mapTo = g.mapTo
  port : p.port = g.port.getD unsetInt ∧ ∀ v, g.port = some v → 0 ≤ v
  httpStatus : Tells unsetInt g.httpStatus p.httpStatus
  tls13Only : Tells .unset g.tls13Only p.tls13Only
  mode : Tells .unknown g.mode p.mode
  numRecords : Tells 0 g.numRecords p.numRecords
  numSegments : Tells 0 g.numSegments p.numSegments
  oob : Tells .unset g.oob p.oob
  oobEx : Tells .unset g.oobEx p.oobEx
  modMinorVer : Tells .unset g.modMinorVer p.modMinorVer
  sendInterval : Tells unsetInt g.sendInterval p.sendInterval
  fakeTTL : Tells unsetInt g.fakeTTL p.fakeTTL
  fakeSleep : Tells 0 g.fakeSleep p.fakeSleep
  maxTTL : Tells 0 g.maxTTL p.maxTTL
  attempts : Tells 0 g.attempts p.attempts
  singleTimeout : Tells unsetInt g.singleTimeout p.singleTimeout

theorem checkPort_range {name msg : String} {w : Int} {v : Option Int}
    (h : checkInt name (fun v => v < 0 ∨ 65535 < v) msg unsetInt v = .ok w) :
    w = v.getD unsetInt ∧ ∀ n, v = some n → 0 ≤ n := by
  refine ⟨(checkInt_tells h (by decide)).1, ?_⟩
  rintro n rfl
  rcases checkInt_cases h with ⟨hnone, -⟩ | ⟨hsome, hw⟩
  · cases hnone
  · rw [Option.some.inj hsome]
    simp only [decide_eq_false_iff_not] at hw
    omega

theorem read_agrees {std : Std} (r : ReadPolicy std) : Agrees r.given r.policy := by
  have h := r.read
  unfold unmarshalPolicy at h
  rw [r.decoded, Res.bind_ok] at h
  obtain ⟨host, hhost, h⟩ := Res.bind_eq_ok.mp h
  obtain ⟨mapTo, hmapTo, h⟩ := Res.bind_eq_ok.mp h
  obtain ⟨port, hport, h⟩ := Res.bind_eq_ok.mp h
  obtain ⟨httpStatus, hstatus, h⟩ := Res.bind_eq_ok.mp h
  obtain ⟨numRecords, hrecords, h⟩ := Res.bind_eq_ok.mp h
  obtain ⟨numSegments, hsegments, h⟩ := Res.bind_eq_ok.mp h
  obtain ⟨fakeTTL, hfake, h⟩ := Res.bind_eq_ok.mp h
  obtain ⟨attempts, hattempts, h⟩ := Res.bind_eq_ok.mp h
  obtain ⟨maxTTL, hmax, h⟩ := Res.bind_eq_ok.mp h
  obtain ⟨connectTimeout, hconnect, h⟩ := Res.bind_eq_ok.mp h
  obtain ⟨sendInterval, hsend, h⟩ := Res.bind_eq_ok.mp h
  obtain ⟨fakeSleep, hsleep, h⟩ := Res.bind_eq_ok.mp h
  obtain ⟨singleTimeout, hsingle, h⟩ := Res.bind_eq_ok.mp h
  rw [← Res.ok.inj h]
  exact {
    replyFirst := tells_unless _ _
    dnsMode := tells_unless _ _
    connectTimeout := checkDuration_tells hconnect (by decide)
    host := checkText_same hhost
    mapTo := checkText_same hmapTo
    port := checkPort_range hport
    httpStatus := checkInt_tells hstatus (by decide)
    tls13Only := tells_unless _ _
    mode := tells_unless _ _
    numRecords := checkInt_tells hrecords (by decide)
    numSegments := checkInt_tells hsegments (by decide)
    oob := tells_unless _ _
    oobEx := tells_unless _ _
    modMinorVer := tells_unless _ _
    sendInterval := checkDuration_tells hsend (by decide)
    fakeTTL := checkInt_tells hfake (by decide)
    fakeSleep := checkDuration_tells hsleep (by decide)
    maxTTL := checkInt_tells hmax (by decide)
    attempts := checkInt_tells hattempts (by decide)
    singleTimeout := checkDuration_tells hsingle (by decide) }

/-! ## what the merge keeps -/

section
variable {std : Std} {α : Type} [DecidableEq α]

theorem firstSet_given {β : Type} {unset : α} {f : β → α} {g : β → Option α} (l : List β)
    (h : ∀ b, Tells unset (g b) (f b)) :
    firstSet unset (l.map f) = (l.findSome? g).getD unset := by
  induction l with
  | nil => rfl
  | cons b l ih =>
    obtain ⟨hv, hne⟩ := h b
    rw [List.map_cons, hv]
    cases hg : g b with
    | none => rw [Option.getD_none, firstSet_cons_unset, ih, List.findSome?_cons, hg]
    | some v =>
      have hset : v ≠ unset := fun heq => hne (hg.trans (congrArg some heq))
      rw [Option.getD_some, firstSet_cons_set hset, List.findSome?_cons, hg]
      rfl

theorem firstSet_option {β : Type} {f : β → Option α} (l : List β) :
    firstSet none (l.map f) = l.findSome? f := by
  induction l with
  | nil => rfl
  | cons b l ih =>
    rw [List.map_cons, List.findSome?_cons]
    cases hf : f b with
    | none => rw [firstSet_cons_unset, ih]
    | some v => rw [firstSet_cons_set (Option.some_ne_none v)]

theorem merge_tells {f : Policy → α} {g : Given → Option α} {unset : α}
    (hs : ∀ r : ReadPolicy std, Tells unset (g r.given) (f r.policy))
    (hf : ∀ m p, f (mergeStep m p) = pick unset (f m) (f p)) (h0 : f mergeInit = unset)
    (hd : ∀ p, f (applyPolicyDefaults p) = f p) (rs : List (ReadPolicy std)) :
    f (mergePolicies (rs.map (·.policy))) = ((rs.map (·.given)).findSome? g).getD unset := by
  rw [merge_field f unset hf h0 hd, List.map_map, List.findSome?_map]
  exact firstSet_given rs hs

theorem merge_tells_default {f : Policy → α} {g : Given → Option α} {unset d : α}
    (hs : ∀ r : ReadPolicy std, Tells unset (g r.given) (f r.policy))
    (hf : ∀ m p, f (mergeStep m p) = pick unset (f m) (f p)) (h0 : f mergeInit = unset)
    (hd : ∀ p, f (applyPolicyDefaults p) = if f p = unset then d else f p)
    (rs : List (ReadPolicy std)) :
    f (mergePolicies (rs.map (·.policy))) = ((rs.map (·.given)).findSome? g).getD d := by
  have hfirst : firstSet unset (rs.map (f ∘ (·.policy))) = _ := firstSet_given rs hs
  have hfind : (rs.map (·.given)).findSome? g = rs.findSome? fun r => g r.given := List.findSome?_map
  rw [merge_field_default f unset d hf h0 hd, List.map_map, hfirst, hfind]
  cases hg : rs.findSome? fun r => g r.given with
  | none => exact if_pos rfl
  | some v =>
    obtain ⟨r, -, hr⟩ := List.exists_of_findSome?_eq_some hg
    exact if_neg fun heq => (hs r).2 (hr.trans (congrArg some heq))

end

theorem merge_given {std : Std} (rs : List (ReadPolicy std)) :
    { mergePolicies (rs.map (·.policy)) with port := 0 } =
      { firstWins (rs.map (·.given)) with port := 0 } := by
  have hhost : (mergePolicies (rs.map (·.policy))).host = (rs.map (·.given)).findSome? (·.host) := by
    rw [merge_host, List.map_map, List.findSome?_map, ← firstSet_option]
    exact congrArg _ (List.map_congr_left fun r _ => (read_agrees r).host)
  have hmapTo : (mergePolicies (rs.map (·.policy))).mapTo =
      (rs.map (·.given)).findSome? (·.mapTo) := by
    rw [merge_field (·.mapTo) none (fun _ _ => rfl) rfl (fun _ => rfl), List.map_map,
      List.findSome?_map, ← firstSet_option]
    exact congrArg _ (List.map_congr_left fun r _ => (read_agrees r).mapTo)
  rw [Policy.mk.injEq]
  exact ⟨merge_tells (fun r => (read_agrees r).replyFirst) (fun _ _ => rfl) rfl (fun _ => rfl) rs,
    merge_tells_default (fun r => (read_agrees r).dnsMode) (fun _ _ => rfl) rfl (fun _ => rfl) rs,
    merge_tells (fun r => (read_agrees r).connectTimeout) (fun _ _ => rfl) rfl (fun _ => rfl) rs,
    hhost, hmapTo, rfl,
    merge_tells (fun r => (read_agrees r).httpStatus) (fun _ _ => rfl) rfl (fun _ => rfl) rs,
    merge_tells (fun r => (read_agrees r).tls13Only) (fun _ _ => rfl) rfl (fun _ => rfl) rs,
    merge_tells_default (fun r => (read_agrees r).mode) (fun _ _ => rfl) rfl (fun _ => rfl) rs,
    merge_tells (fun r => (read_agrees r).numRecords) (fun _ _ => rfl) rfl (fun _ => rfl) rs,
    merge_tells (fun r => (read_agrees r).numSegments) (fun _ _ => rfl) rfl (fun _ => rfl) rs,
    merge_tells (fun r => (read_agrees r).oob) (fun _ _ => rfl) rfl (fun _ => rfl) rs,
    merge_tells (fun r => (read_agrees r).oobEx) (fun _ _ => rfl) rfl (fun _ => rfl) rs,
    merge_tells (fun r => (read_agrees r).modMinorVer) (fun _ _ => rfl) rfl (fun _ => rfl) rs,
    merge_tells (fun r => (read_agrees r).sendInterval) (fun _ _ => rfl) rfl (fun _ => rfl) rs,
    merge_tells (fun r => (read_agrees r).fakeTTL) (fun _ _ => rfl) rfl (fun _ => rfl) rs,
    merge_tells (fun r => (read_agrees r).fakeSleep) (fun _ _ => rfl) rfl (fun _ => rfl) rs,
    merge_tells (fun r => (read_agrees r).maxTTL) (fun _ _ => rfl) rfl (fun _ => rfl) rs,
    merge_tells (fun r => (read_agrees r).attempts) (fun _ _ => rfl) rfl (fun _ => rfl) rs,
    merge_tells (fun r => (read_agrees r).singleTimeout) (fun _ _ => rfl) rfl (fun _ => rfl) rs⟩

/-! ## the port -/

/-- no object sets a port, or the first one sets one that is not 0, or all of them set 0 -/
def PortsAgree (gs : List Given) : Prop :=
  (∀ g ∈ gs, g.port = none) ∨ (∃ v, v ≠ 0 ∧ gs.head?.bind (·.port) = some v) ∨
    ∀ g ∈ gs, g.port = some 0

/-- the port that is first set; if none is, 0 and `unsetInt` both mean that there is none -/
def PortFirst (gs : List Given) (port : Int) : Prop :=
  match gs.findSome? (·.port) with
  | some v => port = v
  | none => port = 0 ∨ port = unsetInt

theorem port_first_iff {std : Std} (rs : List (ReadPolicy std)) :
    PortFirst (rs.map (·.given)) (mergePolicies (rs.map (·.policy))).port ↔
      PortsAgree (rs.map (·.given)) := by
  rw [merge_field (·.port) 0 (fun _ _ => rfl) rfl (fun _ => rfl), List.map_map]
  unfold PortFirst PortsAgree
  cases rs with
  | nil => exact ⟨fun _ => .inl fun g hg => (nomatch hg), fun _ => .inl rfl⟩
  | cons r rs =>
    obtain ⟨hport, hrange⟩ := (read_agrees r).port
    rw [List.map_cons, List.map_cons, List.findSome?_cons, List.head?_cons, Option.bind_some,
      Function.comp_apply, hport, List.forall_mem_cons, List.forall_mem_cons]
    cases hg : r.given.port with
    | none =>
      -- the decoder's mark is a value for the merge
      rw [Option.getD_none, firstSet_cons_set (by decide)]
      cases hf : (rs.map (·.given)).findSome? (·.port) with
      | none => exact ⟨fun _ => .inl ⟨rfl, List.findSome?_eq_none_iff.mp hf⟩, fun _ => .inr rfl⟩
      | some v =>
        obtain ⟨g, hmem, hv⟩ := List.exists_of_findSome?_eq_some hf
        obtain ⟨r', -, rfl⟩ := List.mem_map.mp hmem
        have hpos := (read_agrees r').port.2 v hv
        refine ⟨fun (heq : unsetInt = v) => ?_, ?_⟩
        · rw [← heq] at hpos
          exact absurd hpos (by decide)
        · rintro (⟨-, hall⟩ | ⟨w, -, hw⟩ | ⟨h0, -⟩)
          · rw [hall _ hmem] at hv
            cases hv
          · cases hw
          · cases h0
    | some v =>
      rw [Option.getD_some]
      by_cases hv : v = 0
      · -- a port of 0 is overruled by whatever follows
        rw [hv, firstSet_cons_unset]
        refine (firstSet_eq_unset.trans List.forall_mem_map).trans ?_
        have hzero : ∀ r' : ReadPolicy std, r'.policy.port = 0 ↔ r'.given.port = some 0 := by
          intro r'
          rw [(read_agrees r').port.1]
          cases r'.given.port with
          | none => exact ⟨fun h => absurd h (by decide), nofun⟩
          | some w => exact (Option.some_inj (a := w) (b := 0)).symm
        constructor
        · intro hall
          refine .inr (.inr ⟨rfl, List.forall_mem_map.mpr fun r' hr' => (hzero r').mp (hall r' hr')⟩)
        · rintro (⟨h0, -⟩ | ⟨w, hne, hw⟩ | ⟨-, hall⟩)
          · cases h0
          · exact absurd (Option.some.inj hw).symm hne
          · exact fun r' hr' => (hzero r').mpr (List.forall_mem_map.mp hall r' hr')
      · rw [firstSet_cons_set hv]
        exact ⟨fun _ => .inr (.inl ⟨v, hv, rfl⟩), fun _ => rfl⟩

/-- the merged policy is what the first objects that set its fields say -/
structure FirstSetWins {std : Std} (rs : List (ReadPolicy std)) (merged : Policy) : Prop where
  port : PortFirst (rs.map (·.given)) merged.port
  others : { merged with port := 0 } = { firstWins (rs.map (·.given)) with port := 0 }

/-- **The first object that sets a field decides it, except for the port**: for every list of policies
that were read, exactly under `PortsAgree`. -/
theorem merge_first_iff (std : Std) (rs : List (ReadPolicy std)) :
    FirstSetWins rs (mergePolicies (rs.map (·.policy))) ↔ PortsAgree (rs.map (·.given)) :=
  ⟨fun h => (port_first_iff rs).mp h.port, fun h => ⟨(port_first_iff rs).mpr h, merge_given rs⟩⟩

def portFields (port : Option Int) : PolicyJSON where
  replyFirst := .unset
  connectTimeout := none
  host := none
  mapTo := none
  port := port
  dnsMode := .unknown
  httpStatus := none
  tls13Only := .unset
  mode := .unknown
  numRecords := none
  numSegments := none
  oob := .unset
  oobEx := .unset
  modMinorVer := .unset
  sendInterval := none
  fakeTTL := none
  fakeSleep := none
  maxTTL := none
  attempts := none
  singleTimeout := none

def emptyRead : ReadPolicy asciiStd where
  json := .obj []
  fields := portFields none
  policy := { mergeInit with port := unsetInt }
  decoded := rfl
  read := rfl

def portRead : ReadPolicy asciiStd where
  json := .obj [(lit "port", .num (lit "8443"))]
  fields := portFields (some 8443)
  policy := { mergeInit with port := 8443 }
  decoded := rfl
  read := rfl

/-- a rule without a port hides the port of the default policy -/
theorem later_port_lost :
    ¬ FirstSetWins [emptyRead, portRead] (mergePolicies [emptyRead.policy, portRead.policy]) ∧
    (mergePolicies [emptyRead.policy, portRead.policy]).port = unsetInt := by
  have hport : (mergePolicies [emptyRead.policy, portRead.policy]).port = unsetInt := by decide
  refine ⟨fun h => ?_, hport⟩
  have heq : (mergePolicies [emptyRead.policy, portRead.policy]).port = 8443 := h.port
  rw [hport] at heq
  cases heq

end Bill
