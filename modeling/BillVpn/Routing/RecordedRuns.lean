import BillVpn.Go.Case
import BillVpn.Go.Run
import BillVpn.Routing.Recorded

/-!
# The recorded answers over whole runs

One entry of the table carries an IPv4 and an IPv6 half, each with its own expiry; a lookup blanks
what has expired.  Against this stands the HISTORY: the A and AAAA records in the order in which they
were recorded for a name, of which the last one counts until its TTL is over.

* `Half`, `RecordedDNSResult.half`   a half of an entry, as far as a lookup can see it;
* `pruned_half`       blanking what has expired changes nothing later;
* `remember_half`     recording answers appends them to the history;
* `Shows`             the table shows the history, from a time on;
* `lookup_recorded`   **a lookup answers by the history**, which no earlier lookup is a part of.
-/

set_option linter.unusedVariables false

namespace Bill
open Go Proc

/-! ## halves -/

inductive Half where
  | v4
  | v6
deriving DecidableEq, Repr

namespace RecordedDNSResult

def ip (e : RecordedDNSResult) : Half → Bytes
  | .v4 => e.ipv4
  | .v6 => e.ipv6

def expire (e : RecordedDNSResult) : Half → Int
  | .v4 => e.ipv4Expire
  | .v6 => e.ipv6Expire

/-- what a lookup at the time `t` takes for valid -/
def half (e : RecordedDNSResult) (h : Half) (t : Int) : Option Bytes :=
  if e.ip h ≠ [] ∧ t < e.expire h then some (e.ip h) else none

theorem pruned_ip (e : RecordedDNSResult) (h : Half) (now : Int) :
    (e.pruned now).ip h = (e.half h now).getD [] := by
  cases h with
  | v4 =>
    show (if e.ipv4 ≠ [] ∧ now < e.ipv4Expire then e.ipv4 else []) =
      (if e.ipv4 ≠ [] ∧ now < e.ipv4Expire then some e.ipv4 else none).getD []
    split_ifs
    · rfl
    · rfl
  | v6 =>
    show (if e.ipv6 ≠ [] ∧ now < e.ipv6Expire then e.ipv6 else []) =
      (if e.ipv6 ≠ [] ∧ now < e.ipv6Expire then some e.ipv6 else none).getD []
    split_ifs
    · rfl
    · rfl

theorem pruned_expire (e : RecordedDNSResult) (h : Half) (now : Int) :
    (e.pruned now).expire h = if e.ip h ≠ [] ∧ now < e.expire h then e.expire h else 0 := by
  cases h with
  | v4 => rfl
  | v6 => rfl

theorem half_ne_nil {e : RecordedDNSResult} {h : Half} {t : Int} {b : Bytes}
    (hb : e.half h t = some b) : b ≠ [] := by
  unfold half at hb
  split_ifs at hb with hv
  cases hb
  exact hv.1

theorem pruned_half (e : RecordedDNSResult) (h : Half) {now t : Int} (ht : now ≤ t) :
    (e.pruned now).half h t = e.half h t := by
  have hip := e.pruned_ip h now
  have hex := e.pruned_expire h now
  unfold half at hip ⊢
  rw [hip, hex]
  by_cases hv : e.ip h ≠ [] ∧ now < e.expire h
  · rw [if_pos hv, if_pos hv]
    rfl
  · rw [if_neg hv, if_neg hv, if_neg (fun hc => hc.1 rfl),
      if_neg (fun hc => hv ⟨hc.1, by omega⟩)]

/-- which of two addresses a mode takes -/
def choose (v4 v6 : Option Bytes) : DNSMode → Option Bytes
  | .ipv4Only => v4
  | .ipv6Only => v6
  | .preferIPv6 => v6 <|> v4
  | _ => v4 <|> v6

theorem byMode_choose (e : RecordedDNSResult) (dnsMode : DNSMode) :
    e.byMode dnsMode = choose (present? e.ipv4) (present? e.ipv6) dnsMode := by
  cases dnsMode with
  | unknown => rfl
  | preferIPv4 => rfl
  | preferIPv6 => rfl
  | ipv4Only => rfl
  | ipv6Only => rfl

theorem present?_half (e : RecordedDNSResult) (h : Half) (now : Int) :
    present? ((e.half h now).getD []) = e.half h now := by
  cases hh : e.half h now with
  | none => rfl
  | some b => exact if_neg (half_ne_nil hh)

theorem pruned_byMode (e : RecordedDNSResult) (dnsMode : DNSMode) (now : Int) :
    (e.pruned now).byMode dnsMode = choose (e.half .v4 now) (e.half .v6 now) dnsMode := by
  have h4 : present? (e.pruned now).ipv4 = e.half .v4 now := by
    rw [← e.present?_half .v4 now, ← e.pruned_ip .v4 now]
    rfl
  have h6 : present? (e.pruned now).ipv6 = e.half .v6 now := by
    rw [← e.present?_half .v6 now, ← e.pruned_ip .v6 now]
    rfl
  rw [byMode_choose, h4, h6]

theorem choose_none (dnsMode : DNSMode) : choose none none dnsMode = none := by
  cases dnsMode with
  | unknown => rfl
  | preferIPv4 => rfl
  | preferIPv6 => rfl
  | ipv4Only => rfl
  | ipv6Only => rfl

theorem half_zero (h : Half) (t : Int) : ({} : RecordedDNSResult).half h t = none := by
  cases h with
  | v4 => rfl
  | v6 => rfl

theorem ip_of_both {r : RecordedDNSResult} (hboth : r.ipv4 = [] ∧ r.ipv6 = []) (h : Half) :
    r.ip h = [] := by
  cases h with
  | v4 => exact hboth.1
  | v6 => exact hboth.2

theorem half_of_empty {r : RecordedDNSResult} {h : Half} (hip : r.ip h = []) (t : Int) :
    r.half h t = none := if_neg fun hc => hc.1 hip

end RecordedDNSResult

/-! ## the history -/

/-- an address and when it stops to count -/
def RR.recorded (rr : RR) (now : Int) : Half → Option (Bytes × Int)
  | .v4 => match rr.data with
    | .a ip => some (ipString ip, now + ttlOrDefault rr.hdr.ttl * second)
    | _ => none
  | .v6 => match rr.data with
    | .aaaa ip => some (ipString ip, now + ttlOrDefault rr.hdr.ttl * second)
    | _ => none

/-- the very last record, while it counts -/
def lastRecorded (history : List (Bytes × Int)) (t : Int) : Option Bytes :=
  history.getLast?.bind fun r => if t < r.2 then some r.1 else none

inductive RecordEvent where
  | remember (domain : Bytes) (answers : List RR) (now : Int)
  | lookup (domain : Bytes) (dnsMode : DNSMode) (now : Int)

namespace RecordEvent

def now : RecordEvent → Int
  | .remember _ _ now => now
  | .lookup _ _ now => now

def isRemember : RecordEvent → Bool
  | .remember _ _ _ => true
  | .lookup _ _ _ => false

/-- the records of the event for a name in lower case -/
def records (lower : Bytes → Bytes) (name : Bytes) (h : Half) : RecordEvent → List (Bytes × Int)
  | .remember domain answers now =>
    if domain ≠ [] ∧ lower domain = name then answers.filterMap (RR.recorded · now h) else []
  | .lookup _ _ _ => []

end RecordEvent

/-- the records of a run, in order -/
def recordedFor (lower : Bytes → Bytes) (es : List RecordEvent) (name : Bytes) (h : Half) :
    List (Bytes × Int) := es.flatMap (RecordEvent.records lower name h)

theorem lastRecorded_snoc (a : List (Bytes × Int)) (r : Bytes × Int) (t : Int) :
    lastRecorded (a ++ [r]) t = if t < r.2 then some r.1 else none := by
  unfold lastRecorded
  rw [List.getLast?_append, List.getLast?_singleton, Option.some_or]
  rfl

/-! ## recording -/

theorem ipString_nonempty (ip : IP) : ipString ip ≠ [] := by
  by_cases h : ip = []
  · rw [h]
    decide
  · exact ipString_ne_nil h

section
variable (domain : Bytes) (now : Int)

theorem rememberAnswer_half (st : RecordedDNSResult × DnsState) (rr : RR) (h : Half) (t : Int) :
    (rememberAnswer domain now st rr).1.half h t =
      match rr.recorded now h with
      | some r => if t < r.2 then some r.1 else none
      | none => st.1.half h t := by
  obtain ⟨hdr, data⟩ := rr
  have hset : ∀ (ip : IP) (expire : Int), (if ipString ip ≠ [] ∧ t < expire then some (ipString ip)
      else none) = if t < expire then some (ipString ip) else none := by
    intro ip expire
    simp only [ne_eq, ipString_nonempty ip, not_false_eq_true, true_and]
  cases data with
  | a ip =>
    cases h with
    | v4 => exact hset ip _
    | v6 => rfl
  | aaaa ip =>
    cases h with
    | v4 => rfl
    | v6 => exact hset ip _
  | other rdata =>
    cases h with
    | v4 => rfl
    | v6 => rfl

theorem rememberAnswer_ip {st : RecordedDNSResult × DnsState} (rr : RR) {h : Half}
    (hne : st.1.ip h ≠ []) : (rememberAnswer domain now st rr).1.ip h ≠ [] := by
  obtain ⟨hdr, data⟩ := rr
  cases data with
  | a ip =>
    cases h with
    | v4 => exact ipString_nonempty ip
    | v6 => exact hne
  | aaaa ip =>
    cases h with
    | v4 => exact hne
    | v6 => exact ipString_nonempty ip
  | other rdata => exact hne

theorem rememberAnswer_table (st : RecordedDNSResult × DnsState) (rr : RR) :
    (rememberAnswer domain now st rr).2.recordedDNSIPs = st.2.recordedDNSIPs := by
  have hmap : ∀ ip, (rememberDomainIPMapping domain ip st.2).recordedDNSIPs = st.2.recordedDNSIPs := by
    intro ip
    unfold rememberDomainIPMapping
    split_ifs
    · rfl
    · rfl
  unfold rememberAnswer
  cases rr.data with
  | a ip => exact hmap _
  | aaaa ip => exact hmap _
  | other rdata => rfl

theorem answers_half (answers : List RR) (st : RecordedDNSResult × DnsState) {h : Half} {t : Int}
    {history : List (Bytes × Int)} (hst : st.1.half h t = lastRecorded history t) :
    (answers.foldl (rememberAnswer domain now) st).1.half h t =
      lastRecorded (history ++ answers.filterMap (RR.recorded · now h)) t := by
  induction answers generalizing st history with
  | nil =>
    rw [List.filterMap_nil, List.append_nil]
    exact hst
  | cons rr answers ih =>
    have hstep := rememberAnswer_half domain now st rr h t
    rw [List.foldl_cons]
    cases hr : rr.recorded now h with
    | none =>
      rw [hr] at hstep
      rw [List.filterMap_cons_none (f := fun x : RR => x.recorded now h) hr]
      exact ih _ (hstep.trans hst)
    | some r =>
      rw [hr] at hstep
      rw [List.filterMap_cons_some (f := fun x : RR => x.recorded now h) hr, List.append_cons]
      exact ih _ (hstep.trans (lastRecorded_snoc history r t).symm)

theorem answers_ip (answers : List RR) (st : RecordedDNSResult × DnsState) {h : Half}
    (hne : st.1.ip h ≠ []) : (answers.foldl (rememberAnswer domain now) st).1.ip h ≠ [] := by
  induction answers generalizing st with
  | nil => exact hne
  | cons rr answers ih => exact ih _ (rememberAnswer_ip domain now rr hne)

theorem answers_table (answers : List RR) (st : RecordedDNSResult × DnsState) :
    (answers.foldl (rememberAnswer domain now) st).2.recordedDNSIPs = st.2.recordedDNSIPs := by
  induction answers generalizing st with
  | nil => rfl
  | cons rr answers ih => exact (ih _).trans (rememberAnswer_table domain now st rr)

end

/-- the entry of a name; none is the zero one -/
def DnsState.recordedEntry (s : DnsState) (name : Bytes) : RecordedDNSResult :=
  (s.recordedDNSIPs.get name).getD {}

section
variable {σ : Type} (env : Env σ)

theorem remember_eq {s : DnsState} {domain : Bytes} {answers : List RR} {now : Int}
    (hnil : ¬ (domain = [] ∨ answers = [])) {st : RecordedDNSResult × DnsState}
    (hst : answers.foldl (rememberAnswer (env.lower domain) now) (s.recordedEntry (env.lower domain), s) =
      st) :
    rememberRecordedDNSAnswers env domain answers now s =
      if st.1.ipv4 = [] ∧ st.1.ipv6 = [] then st.2
      else { st.2 with recordedDNSIPs := st.2.recordedDNSIPs.set (env.lower domain) st.1 } := by
  subst hst
  unfold rememberRecordedDNSAnswers
  rw [if_neg hnil]
  rfl

theorem remember_half {s : DnsState} {domain : Bytes} {answers : List RR} {now : Int} {name : Bytes}
    {h : Half} {t : Int} {history : List (Bytes × Int)}
    (hs : (s.recordedEntry name).half h t = lastRecorded history t) :
    ((rememberRecordedDNSAnswers env domain answers now s).recordedEntry name).half h t =
      lastRecorded (history ++ if domain ≠ [] ∧ env.lower domain = name then
        answers.filterMap (RR.recorded · now h) else []) t := by
  by_cases hnil : domain = [] ∨ answers = []
  · have hsame : rememberRecordedDNSAnswers env domain answers now s = s := by
      unfold rememberRecordedDNSAnswers
      rw [if_pos hnil]
    rw [hsame, hs]
    rcases hnil with hd | ha
    · rw [if_neg (fun hc => hc.1 hd), List.append_nil]
    · rw [ha, List.filterMap_nil, ite_self, List.append_nil]
  have hd : domain ≠ [] := fun hc => hnil (.inl hc)
  generalize hfold : answers.foldl (rememberAnswer (env.lower domain) now)
    (s.recordedEntry (env.lower domain), s) = st
  have htable : st.2.recordedDNSIPs = s.recordedDNSIPs := by
    rw [← hfold]
    exact answers_table (env.lower domain) now answers (s.recordedEntry (env.lower domain), s)
  by_cases hname : env.lower domain = name
  · subst hname
    have hhalf := answers_half (env.lower domain) now answers (s.recordedEntry _, s) hs
    rw [if_pos ⟨hd, rfl⟩, ← hhalf, hfold, remember_eq env hnil hfold]
    unfold DnsState.recordedEntry
    by_cases hboth : st.1.ipv4 = [] ∧ st.1.ipv6 = []
    · -- nothing was recorded, and there was nothing before
      have hempty : st.1.ip h = [] := RecordedDNSResult.ip_of_both hboth h
      have hold : (s.recordedEntry (env.lower domain)).ip h = [] := by
        by_contra hc
        have hne := answers_ip (env.lower domain) now answers (s.recordedEntry _, s) hc
        rw [hfold] at hne
        exact hne hempty
      rw [if_pos hboth, htable]
      show (s.recordedEntry (env.lower domain)).half h t = _
      rw [RecordedDNSResult.half_of_empty hold, RecordedDNSResult.half_of_empty hempty]
    · rw [if_neg hboth]
      show RecordedDNSResult.half ((GoMap.get (GoMap.set _ _ _) _).getD {}) h t = _
      rw [GoMap.get_set_self]
      rfl
  · rw [if_neg (fun hc => hname hc.2), List.append_nil, ← hs, remember_eq env hnil hfold]
    unfold DnsState.recordedEntry
    by_cases hboth : st.1.ipv4 = [] ∧ st.1.ipv6 = []
    · rw [if_pos hboth, htable]
    · rw [if_neg hboth]
      show RecordedDNSResult.half ((GoMap.get (GoMap.set _ _ _) _).getD {}) h t = _
      rw [GoMap.get_set, if_neg (fun hc => hname hc.symm), htable]

/-! ## looking up -/

theorem lookup_answer {lower : Bytes → Bytes} {domain : Bytes} (hd : domain ≠ []) (dnsMode : DNSMode)
    (now : Int) (s : DnsState) :
    (lookupRecordedDNSIP lower domain dnsMode now s).1 =
      .ok (RecordedDNSResult.choose ((s.recordedEntry (lower domain)).half .v4 now)
        ((s.recordedEntry (lower domain)).half .v6 now) dnsMode) := by
  unfold lookupRecordedDNSIP DnsState.recordedEntry
  rw [if_neg hd]
  cases hget : s.recordedDNSIPs.get (lower domain) with
  | none =>
    show Res.ok none = .ok (RecordedDNSResult.choose (RecordedDNSResult.half {} .v4 now)
      (RecordedDNSResult.half {} .v6 now) dnsMode)
    rw [RecordedDNSResult.half_zero, RecordedDNSResult.half_zero, RecordedDNSResult.choose_none]
  | some e =>
    show (if (e.pruned now).ipv4 = [] ∧ (e.pruned now).ipv6 = [] then _ else _ : Res _ × DnsState).1 = _
    have hmode := e.pruned_byMode dnsMode now
    by_cases hboth : (e.pruned now).ipv4 = [] ∧ (e.pruned now).ipv6 = []
    · have hnone : (e.pruned now).byMode dnsMode = none := by
        rw [RecordedDNSResult.byMode_choose, hboth.1, hboth.2]
        exact RecordedDNSResult.choose_none dnsMode
      rw [if_pos hboth]
      exact congrArg Res.ok (hnone.symm.trans hmode)
    · rw [if_neg hboth]
      exact congrArg Res.ok hmode

theorem lookup_half (lower : Bytes → Bytes) (domain : Bytes) (dnsMode : DNSMode) {now t : Int}
    (ht : now ≤ t) (s : DnsState) (name : Bytes) (h : Half) :
    ((lookupRecordedDNSIP lower domain dnsMode now s).2.recordedEntry name).half h t =
      (s.recordedEntry name).half h t := by
  unfold lookupRecordedDNSIP
  by_cases hd : domain = []
  · rw [if_pos hd]
  rw [if_neg hd]
  cases hget : s.recordedDNSIPs.get (lower domain) with
  | none => rfl
  | some e =>
    have hentry : s.recordedEntry (lower domain) = e := by
      unfold DnsState.recordedEntry
      rw [hget]
      rfl
    show (DnsState.recordedEntry (if (e.pruned now).ipv4 = [] ∧ (e.pruned now).ipv6 = [] then _
      else _ : Res _ × DnsState).2 name).half h t = _
    by_cases hboth : (e.pruned now).ipv4 = [] ∧ (e.pruned now).ipv6 = []
    · rw [if_pos hboth]
      show RecordedDNSResult.half ((GoMap.get (GoMap.del _ _) name).getD {}) h t = _
      rw [GoMap.get_del]
      by_cases hname : name = lower domain
      · rw [if_pos hname, hname, hentry, ← e.pruned_half h ht]
        show RecordedDNSResult.half {} h t = _
        rw [RecordedDNSResult.half_zero,
          RecordedDNSResult.half_of_empty (RecordedDNSResult.ip_of_both hboth h)]
      · rw [if_neg hname]
        rfl
    · rw [if_neg hboth]
      show RecordedDNSResult.half ((GoMap.get (GoMap.set _ _ _) name).getD {}) h t = _
      rw [GoMap.get_set]
      by_cases hname : name = lower domain
      · rw [if_pos hname, hname, hentry]
        exact e.pruned_half h ht
      · rw [if_neg hname]
        rfl

/-! ## runs -/

def recordStep : RecordEvent → DnsState → DnsState
  | .remember domain answers now, s => rememberRecordedDNSAnswers env domain answers now s
  | .lookup domain dnsMode now, s => (lookupRecordedDNSIP env.lower domain dnsMode now s).2

/-- from `now` on the table shows what the history says -/
def Shows (es : List RecordEvent) (now : Int) (s : DnsState) : Prop :=
  ∀ name h t, now ≤ t →
    (s.recordedEntry name).half h t = lastRecorded (recordedFor env.lower es name h) t

theorem recordedFor_snoc (lower : Bytes → Bytes) (es : List RecordEvent) (e : RecordEvent)
    (name : Bytes) (h : Half) :
    recordedFor lower (es ++ [e]) name h = recordedFor lower es name h ++ e.records lower name h := by
  unfold recordedFor
  rw [List.flatMap_append, List.flatMap_singleton]

theorem recordStep_shows {es : List RecordEvent} {now : Int} {s : DnsState} (hs : Shows env es now s)
    {e : RecordEvent} (hnow : now ≤ e.now) : Shows env (es ++ [e]) e.now (recordStep env e s) := by
  intro name h t ht
  have hold := hs name h t (Int.le_trans hnow ht)
  rw [recordedFor_snoc]
  cases e with
  | remember domain answers now => exact remember_half env hold
  | lookup domain dnsMode now =>
    show _ = lastRecorded (_ ++ []) t
    rw [List.append_nil]
    exact (lookup_half env.lower domain dnsMode ht s name h).trans hold

/-- **along a run with a clock that does not go back, the table shows the history** -/
theorem run_shows {es done : List RecordEvent} {now t : Int} {s : DnsState} (hs : Shows env done now s)
    (hnow : ∀ e ∈ es, now ≤ e.now) (hclock : es.Pairwise fun a b => a.now ≤ b.now) (ht : now ≤ t)
    (hlast : ∀ e ∈ es, e.now ≤ t) : Shows env (done ++ es) t (runAll (recordStep env) es s) := by
  induction es generalizing done now s with
  | nil =>
    rw [List.append_nil]
    exact fun name h t' ht' => hs name h t' (Int.le_trans ht ht')
  | cons e es ih =>
    obtain ⟨hfirst, hclock⟩ := List.pairwise_cons.mp hclock
    have hstep := recordStep_shows env hs (hnow e List.mem_cons_self)
    have hrun := ih hstep hfirst hclock (hlast e List.mem_cons_self)
      (fun e' he' => hlast e' (List.mem_cons_of_mem _ he'))
    rw [List.append_assoc] at hrun
    exact hrun

/-- the answer to a lookup by what was recorded for the name -/
def answerByHistory (lower : Bytes → Bytes) (es : List RecordEvent) (domain : Bytes) (dnsMode : DNSMode)
    (t : Int) : Option Bytes :=
  RecordedDNSResult.choose (lastRecorded (recordedFor lower es (lower domain) .v4) t)
    (lastRecorded (recordedFor lower es (lower domain) .v6) t) dnsMode

theorem run_answer (hlower : LowerCase env.lower) {s : DnsState} (hs : s.recordedDNSIPs = ∅)
    {es : List RecordEvent} (hclock : es.Pairwise fun a b => a.now ≤ b.now) (domain : Bytes)
    (dnsMode : DNSMode) {t : Int} (hlast : ∀ e ∈ es, e.now ≤ t) :
    (lookupRecordedDNSIP env.lower domain dnsMode t (runAll (recordStep env) es s)).1 =
      .ok (answerByHistory env.lower es domain dnsMode t) := by
  by_cases hd : domain = []
  · -- nothing is ever recorded for the empty name
    have hnone : ∀ h, recordedFor env.lower es (env.lower domain) h = [] := by
      intro h
      refine List.flatMap_eq_nil_iff.mpr fun e he => ?_
      cases e with
      | lookup domain' dnsMode' now => rfl
      | remember domain' answers now =>
        refine if_neg fun hc => hc.1 ((hlower.empty domain').mp ?_)
        rw [hc.2, hd]
        exact (hlower.empty []).mpr rfl
    unfold lookupRecordedDNSIP answerByHistory
    rw [if_pos hd, hnone, hnone]
    exact congrArg Res.ok (RecordedDNSResult.choose_none dnsMode).symm
  · have hstart : ∀ now, Shows env [] now s := by
      intro now name h t' _
      unfold DnsState.recordedEntry
      rw [hs, GoMap.get_empty]
      exact RecordedDNSResult.half_zero h t'
    have hshows : Shows env es t (runAll (recordStep env) es s) := by
      cases es with
      | nil => exact hstart t
      | cons e es =>
        refine run_shows env (hstart e.now) (fun e' he' => ?_) hclock
          (hlast e List.mem_cons_self) hlast
        rcases List.mem_cons.mp he' with rfl | he'
        · exact Int.le_refl _
        · exact (List.pairwise_cons.mp hclock).1 e' he'
    rw [lookup_answer hd, hshows _ .v4 t (Int.le_refl t), hshows _ .v6 t (Int.le_refl t)]
    rfl

theorem recordedFor_remember (lower : Bytes → Bytes) (es : List RecordEvent) (name : Bytes) (h : Half) :
    recordedFor lower (es.filter RecordEvent.isRemember) name h = recordedFor lower es name h := by
  induction es with
  | nil => rfl
  | cons e es ih =>
    unfold recordedFor at ih ⊢
    cases e with
    | remember domain answers now =>
      rw [List.filter_cons_of_pos rfl, List.flatMap_cons, List.flatMap_cons, ih]
    | lookup domain dnsMode now =>
      rw [List.filter_cons_of_neg (by simp [RecordEvent.isRemember]), List.flatMap_cons, ih]
      rfl

end

/-- two addresses of a name, the IPv6 one for an hour, and a lookup after the IPv4 one is over -/
def sampleRun : List RecordEvent :=
  [.remember (lit "A.example") [⟨⟨lit "a.example.", 1, 1, 0⟩, .a [192, 0, 2, 7]⟩,
      ⟨⟨lit "a.example.", 28, 1, 3600⟩, .aaaa (List.replicate 15 0 ++ [1])⟩] 0,
    .lookup (lit "a.example") .ipv4Only (300 * second)]

example : answerByHistory asciiLower sampleRun (lit "a.EXAMPLE") .preferIPv4 (400 * second) =
    some (lit "::1") := by decide +kernel

end Bill
