import BillVpn.Dns.Answer

/-!
# What a DNS query does to the stores, and what its fake records say

A query for a matched name allocates once, in the store of its record type, with the TTL of the
first record of that type; the records of the reply carry the TTLs of the first record of each owner.

* `DnsState.store`             the store of a record type;
* `withFakes`                  the records of an answer, with one fake record for each owner;
* `fakeQuery`                  whether a query is answered with a fake address, and from what;
* `allocTTL`, `replyHeaders`   the TTL that the store sees, and the headers that the client sees;
* `handleDNSQuery_fake`        **the one allocation, and the records of the reply**.
-/

set_option linter.unusedVariables false

namespace Bill
open Go Proc FakeIPStore

/-! ## the two stores -/

namespace DnsState

def store (qtype : Nat) (s : DnsState) : FakeIPStore := if qtype = typeA then s.v4 else s.v6

def setStore (qtype : Nat) (t : FakeIPStore) (s : DnsState) : DnsState :=
  if qtype = typeA then { s with v4 := t } else { s with v6 := t }

/-- both stores are well formed, one of IPv4 and one of IPv6 addresses -/
structure WF (s : DnsState) : Prop where
  v4 : s.v4.WF
  v6 : s.v6.WF
  is4 : s.v4.pfx.addr.bitLen = 32
  is6 : s.v6.pfx.addr.bitLen = 128

theorem init_wf : ({} : DnsState).WF :=
  ⟨defaultFakeIPv4Store_wf, defaultFakeIPv6Store_wf, rfl, rfl⟩

variable {s : DnsState} {qtype : Nat}

theorem WF.store (hs : s.WF) (qtype : Nat) : (s.store qtype).WF := by
  unfold DnsState.store
  split_ifs
  · exact hs.v4
  · exact hs.v6

theorem WF.setStore (hs : s.WF) {t : FakeIPStore} (ht : t.WF) (hp : t.pfx = (s.store qtype).pfx) :
    (s.setStore qtype t).WF := by
  unfold DnsState.store at hp
  unfold DnsState.setStore
  split_ifs at hp ⊢
  · exact ⟨ht, hs.v6, hp ▸ hs.is4, hs.is6⟩
  · exact ⟨hs.v4, ht, hs.is4, hp ▸ hs.is6⟩

theorem store_congr {q : Nat} (h : (q = typeA) = (qtype = typeA)) : s.store q = s.store qtype := by
  unfold store
  simp only [h]

theorem store_setStore_self (t : FakeIPStore) : (s.setStore qtype t).store qtype = t := by
  unfold store setStore
  by_cases h : qtype = typeA
  · rw [if_pos h, if_pos h]
  · rw [if_neg h, if_neg h]

theorem store_setStore_ne {q : Nat} (t : FakeIPStore) (h : (q = typeA) ≠ (qtype = typeA)) :
    (s.setStore qtype t).store q = s.store q := by
  unfold store setStore
  by_cases hq : q = typeA
  · rw [if_pos hq, if_pos hq, if_neg fun h' => h (by simp [hq, h'])]
  · rw [if_neg hq, if_neg hq, if_pos]
    by_contra h'
    exact h (by simp [hq, h'])

end DnsState

section
variable {σ : Type} {env : Env σ} {dnsCacheTTL : Int} {domain : Bytes} {qtype : Nat} {now : Int}
  {s : DnsState}

/-! ## one allocation -/

theorem fakeTTL_le_lifetime (dnsCacheTTL : Int) (ttl : Nat) :
    fakeTTL ttl * second ≤ fakeIPLifetime dnsCacheTTL ttl := by
  show (fakeTTL ttl : Int) * second ≤ if fakeTTL ttl * second < dnsCacheTTL then dnsCacheTTL
    else fakeTTL ttl * second
  split_ifs with h
  · exact Int.le_of_lt h
  · exact Int.le_refl _

theorem fakeIPLifetime_pos (ttl : Nat) : 0 < fakeIPLifetime dnsCacheTTL ttl := by
  have h : 0 < fakeTTL ttl := by
    unfold fakeTTL
    split_ifs with h0
    · decide
    · omega
  have hle := fakeTTL_le_lifetime dnsCacheTTL ttl
  unfold second at hle
  omega

theorem lifetimeOr_fake (ttl : Nat) :
    lifetimeOr (fakeIPLifetime dnsCacheTTL ttl) = fakeIPLifetime dnsCacheTTL ttl :=
  if_neg (Int.not_le.mpr (fakeIPLifetime_pos ttl))

theorem allocateFakeIP_run (env : Env σ) (dnsCacheTTL : Int) (domain : Bytes) (now : Int) (hs : s.WF)
    (hq : qtype = typeA ∨ qtype = typeAAAA) (ttl : Nat) :
    ∃ r t, (s.store qtype).allocate env.lower domain (fakeIPLifetime dnsCacheTTL ttl) now =
        some (r, t) ∧
      (allocateFakeIP env dnsCacheTTL domain qtype ttl now s).2 = s.setStore qtype t ∧
      ∀ ip, (allocateFakeIP env dnsCacheTTL domain qtype ttl now s).1 = .ok ip ↔ r = .ok ip := by
  obtain ⟨⟨r, t⟩, hr, -, -⟩ := allocate_wf (hs.store qtype) env.lower domain
    (fakeIPLifetime dnsCacheTTL ttl) now
  refine ⟨r, t, hr, ?_⟩
  have hin : allocateIn env domain (fakeIPLifetime dnsCacheTTL ttl) now (s.store qtype) =
      (.ofExcept r, t) := by
    unfold allocateIn
    rw [hr]
  have hrun : allocateFakeIP env dnsCacheTTL domain qtype ttl now s =
      (.ofExcept r, s.setStore qtype t) := by
    unfold allocateFakeIP
    rcases hq with rfl | rfl
    · rw [if_pos rfl]
      exact zoom_eq (show allocateIn env domain _ now s.v4 = _ from hin)
    · rw [if_neg (by decide), if_pos rfl]
      exact zoom_eq (show allocateIn env domain _ now s.v6 = _ from hin)
  rw [hrun]
  exact ⟨rfl, fun ip => Res.ofExcept_eq_ok⟩

theorem allocated_ne_nil (hs : s.WF) (hq : qtype = typeA ∨ qtype = typeAAAA) {ttl : Nat} {ip : Bytes}
    (h : (allocateFakeIP env dnsCacheTTL domain qtype ttl now s).1 = .ok ip) : ip ≠ [] := by
  obtain ⟨r, t, hr, -, hiff⟩ := allocateFakeIP_run env dnsCacheTTL domain now hs hq ttl
  rw [(hiff ip).mp h] at hr
  obtain ⟨r', hr', hwf, -⟩ := allocate_wf (hs.store qtype) env.lower domain
    (fakeIPLifetime dnsCacheTTL ttl) now
  rw [hr] at hr'
  cases hr'
  obtain ⟨k, a, -, -, -, ht⟩ := hwf.held (allocate_entry (hs.store qtype) hr)
  rw [← ht]
  exact text_ne_nil a

/-! ## the loop over the answers -/

/-- the headers of the records of the queried type that are the first of their owner name -/
def firstOwners (qtype : Nat) : List Bytes → List RR → List RRHeader
  | _, [] => []
  | names, rr :: rrs =>
    if rr.hdr.rrtype ≠ qtype then firstOwners qtype names rrs
    else if rr.hdr.name ∈ names then firstOwners qtype names rrs
    else rr.hdr :: firstOwners qtype (rr.hdr.name :: names) rrs

/-- the record that `buildFakeAnswerRR` makes, if it makes one -/
def fakeRecord (ip : Bytes) (h : RRHeader) : RR :=
  ⟨{ h with ttl := fakeTTL h.ttl },
    if h.rrtype = typeA then .a (to4 (parseIP ip)) else .aaaa (parseIP ip)⟩

theorem buildFakeAnswerRR_record {h : RRHeader} {ip : Bytes} {rr : RR}
    (hb : buildFakeAnswerRR h ip = .ok rr) : rr = fakeRecord ip h := by
  unfold buildFakeAnswerRR at hb
  unfold fakeRecord
  dsimp only at hb
  by_cases hA : h.rrtype = typeA
  · rw [if_pos hA] at hb ⊢
    by_cases hn : to4 (parseIP ip) = []
    · rw [if_pos hn] at hb; cases hb
    · rw [if_neg hn] at hb; cases hb; rfl
  · rw [if_neg hA] at hb ⊢
    by_cases hAAAA : h.rrtype = typeAAAA
    · rw [if_pos hAAAA] at hb
      by_cases hn : parseIP ip = [] ∨ to4 (parseIP ip) ≠ []
      · rw [if_pos hn] at hb; cases hb
      · rw [if_neg hn] at hb; cases hb; rfl
    · rw [if_neg hAAAA] at hb; cases hb

/-- what a record of the answer section turns into, behind the records `before` -/
def standsFor (qtype : Nat) (fake : RRHeader → RR) (before : List RR) (rr : RR) : List RR :=
  if rr.hdr.rrtype ≠ qtype then [rr]
  else if ∃ x ∈ before, x.hdr.rrtype = qtype ∧ x.hdr.name = rr.hdr.name then []
  else [fake rr.hdr]

/-- the answer section with the fake records in their places -/
def withFakes (qtype : Nat) (fake : RRHeader → RR) : List RR → List RR → List RR
  | _, [] => []
  | before, rr :: rrs => standsFor qtype fake before rr ++ withFakes qtype fake (before ++ [rr]) rrs

/-- the names are the owners of the records of the queried type -/
def Owners (qtype : Nat) (before : List RR) (names : List Bytes) : Prop :=
  ∀ name, name ∈ names ↔ ∃ x ∈ before, x.hdr.rrtype = qtype ∧ x.hdr.name = name

theorem owners_nil : Owners qtype [] [] := fun name =>
  ⟨fun h => (nomatch h), fun ⟨_, h, _⟩ => (nomatch h)⟩

section
variable {before : List RR} {names : List Bytes} {x : RR}

theorem Owners.other (h : Owners qtype before names) (hx : x.hdr.rrtype ≠ qtype) :
    Owners qtype (before ++ [x]) names := by
  intro name
  rw [h name]
  refine exists_congr fun y => and_congr_left fun hy => ?_
  rw [List.mem_append, List.mem_singleton]
  exact ⟨.inl, fun hmem => hmem.resolve_right fun heq => hx (heq ▸ hy.1)⟩

theorem Owners.cons (h : Owners qtype before names) (hx : x.hdr.rrtype = qtype) :
    Owners qtype (before ++ [x]) (x.hdr.name :: names) := by
  intro name
  rw [List.mem_cons, h name]
  constructor
  · rintro (rfl | ⟨y, hy, hq⟩)
    · exact ⟨x, List.mem_append_right _ List.mem_cons_self, hx, rfl⟩
    · exact ⟨y, List.mem_append_left _ hy, hq⟩
  · rintro ⟨y, hy, hq⟩
    rcases List.mem_append.mp hy with hy | hy
    · exact .inr ⟨y, hy, hq⟩
    · rw [List.mem_singleton.mp hy] at hq
      exact .inl hq.2.symm

theorem Owners.again (h : Owners qtype before names) (hx : x.hdr.rrtype = qtype)
    (hn : x.hdr.name ∈ names) : Owners qtype (before ++ [x]) names := by
  intro name
  rw [← h.cons hx name, List.mem_cons]
  exact ⟨.inr, fun hmem => hmem.elim (fun heq => heq ▸ hn) id⟩

theorem standsFor_other {fake : RRHeader → RR} (hx : x.hdr.rrtype ≠ qtype) :
    standsFor qtype fake before x = [x] := if_pos hx

theorem Owners.standsFor_again {fake : RRHeader → RR} (h : Owners qtype before names)
    (hx : x.hdr.rrtype = qtype) (hn : x.hdr.name ∈ names) : standsFor qtype fake before x = [] := by
  rw [standsFor, if_neg (not_not.mpr hx), if_pos ((h _).mp hn)]

theorem Owners.standsFor_first {fake : RRHeader → RR} (h : Owners qtype before names)
    (hx : x.hdr.rrtype = qtype) (hn : x.hdr.name ∉ names) :
    standsFor qtype fake before x = [fake x.hdr] := by
  rw [standsFor, if_neg (not_not.mpr hx), if_neg fun hex => hn ((h _).mpr hex)]

theorem mem_withFakes {fake : RRHeader → RR} {rr : RR} {rrs : List RR} (h : Owners qtype before names)
    (hrr : rr ∈ withFakes qtype fake before rrs) (hq : rr.hdr.rrtype = qtype) :
    ∃ hd ∈ firstOwners qtype names rrs, rr = fake hd := by
  induction rrs generalizing before names with
  | nil => cases hrr
  | cons x rrs ih =>
    rw [withFakes, List.mem_append] at hrr
    rw [firstOwners]
    by_cases hx : x.hdr.rrtype ≠ qtype
    · rw [standsFor_other hx, List.mem_singleton] at hrr
      rw [if_pos hx]
      rcases hrr with rfl | hrr
      · exact absurd hq hx
      · exact ih (h.other hx) hrr
    · have hx' := not_not.mp hx
      rw [if_neg hx]
      by_cases hn : x.hdr.name ∈ names
      · rw [h.standsFor_again hx' hn] at hrr
        rw [if_pos hn]
        exact ih (h.again hx' hn) (hrr.resolve_left List.not_mem_nil)
      · rw [h.standsFor_first hx' hn, List.mem_singleton] at hrr
        rw [if_neg hn]
        rcases hrr with rfl | hrr
        · exact ⟨x.hdr, List.mem_cons_self, rfl⟩
        · obtain ⟨hd, hmem, heq⟩ := ih (h.cons hx') hrr
          exact ⟨hd, List.mem_cons_of_mem _ hmem, heq⟩

end

theorem replaceRR_eq_ok {w w' : Rewriting} {ip : Bytes} {x : RR} (h : replaceRR w ip x = .ok w') :
    w'.fakeIP = ip ∧ w'.replaced = true ∧
      if x.hdr.name ∈ w.replacedNames then
        w'.replacedNames = w.replacedNames ∧ w'.answer = w.answer
      else w'.replacedNames = x.hdr.name :: w.replacedNames ∧
        ∃ fakeRR, buildFakeAnswerRR x.hdr ip = .ok fakeRR ∧ w'.answer = w.answer ++ [fakeRR] := by
  unfold replaceRR at h
  by_cases hn : x.hdr.name ∈ w.replacedNames
  · rw [if_pos hn] at h ⊢
    cases h
    exact ⟨rfl, rfl, rfl, rfl⟩
  · rw [if_neg hn] at h ⊢
    obtain ⟨fakeRR, hb, h⟩ := Res.bind_eq_ok.mp h
    cases h
    exact ⟨rfl, rfl, rfl, fakeRR, hb, rfl⟩

/-- the loop with the address at hand -/
def replaceAll (qtype : Nat) : List RR → Rewriting → Res Rewriting
  | [], w => .ok w
  | rr :: rrs, w =>
    if rr.hdr.rrtype ≠ qtype then replaceAll qtype rrs { w with answer := w.answer ++ [rr] }
    else do
      let w ← replaceRR w w.fakeIP rr
      replaceAll qtype rrs w

theorem rewriteRR_other {w : Rewriting} {x : RR} (hx : x.hdr.rrtype ≠ qtype) (s : DnsState) :
    rewriteRR env dnsCacheTTL domain qtype now w x s =
      (.ok { w with answer := w.answer ++ [x] }, s) := by
  unfold rewriteRR
  rw [if_pos hx]
  rfl

theorem rewriteAnswers_filled (rrs : List RR) : ∀ {w : Rewriting}, w.fakeIP ≠ [] →
    rewriteAnswers env dnsCacheTTL domain qtype now rrs w s = (replaceAll qtype rrs w, s) := by
  induction rrs with
  | nil => intro w hip; rfl
  | cons x rrs ih =>
    intro w hip
    rw [rewriteAnswers, replaceAll]
    by_cases hx : x.hdr.rrtype ≠ qtype
    · rw [run_bind_ok (rewriteRR_other hx s), if_pos hx]
      exact ih hip
    · have hrun : rewriteRR env dnsCacheTTL domain qtype now w x s =
          (replaceRR w w.fakeIP x, s) := by
        unfold rewriteRR ensureFakeIP
        rw [if_neg hx, if_neg hip]
        rfl
      rw [if_neg hx, run_bind, hrun]
      cases hr : replaceRR w w.fakeIP x with
      | ok w1 => exact ih (by rw [(replaceRR_eq_ok hr).1]; exact hip)
      | err e => rfl
      | panic => rfl

/-- the fake records can be made, from the first records of their owners -/
def Made (hs : List RRHeader) (ip : Bytes) : Prop :=
  ∀ h ∈ hs, buildFakeAnswerRR h ip = .ok (fakeRecord ip h)

theorem replaceAll_answer (rrs : List RR) : ∀ {w w' : Rewriting} {before : List RR},
    replaceAll qtype rrs w = .ok w' → w.replaced = true → Owners qtype before w.replacedNames →
    w'.replaced = true ∧ Made (firstOwners qtype w.replacedNames rrs) w.fakeIP ∧
      w'.answer = w.answer ++ withFakes qtype (fakeRecord w.fakeIP) before rrs := by
  induction rrs with
  | nil =>
    intro w w' before h hrep hown
    cases h
    exact ⟨hrep, fun h hmem => (nomatch hmem), (List.append_nil _).symm⟩
  | cons x rrs ih =>
    intro w w' before h hrep hown
    rw [replaceAll] at h
    rw [firstOwners, withFakes]
    by_cases hx : x.hdr.rrtype ≠ qtype
    · rw [if_pos hx] at h ⊢
      obtain ⟨h1, h2, h3⟩ := ih h hrep (hown.other hx)
      refine ⟨h1, h2, ?_⟩
      rw [h3, standsFor_other hx, List.append_assoc]
    · have hx' := not_not.mp hx
      rw [if_neg hx] at h ⊢
      obtain ⟨w1, hw1, h⟩ := Res.bind_eq_ok.mp h
      obtain ⟨hip1, hrep1, hw1⟩ := replaceRR_eq_ok hw1
      by_cases hn : x.hdr.name ∈ w.replacedNames
      · rw [if_pos hn] at hw1 ⊢
        obtain ⟨h1, h2, h3⟩ := ih h hrep1 (hw1.1 ▸ hown.again hx' hn)
        rw [hip1, hw1.1] at h2
        rw [hip1, hw1.2] at h3
        rw [hown.standsFor_again hx' hn]
        exact ⟨h1, h2, h3⟩
      · rw [if_neg hn] at hw1 ⊢
        obtain ⟨hnames, fakeRR, hb, hans⟩ := hw1
        obtain ⟨h1, h2, h3⟩ := ih h hrep1 (hnames ▸ hown.cons hx')
        rw [hip1, hnames] at h2
        rw [hip1, hans, buildFakeAnswerRR_record hb, List.append_assoc] at h3
        rw [hown.standsFor_first hx' hn]
        exact ⟨h1, List.forall_mem_cons.mpr ⟨buildFakeAnswerRR_record hb ▸ hb, h2⟩, h3⟩

theorem rewriteAnswers_first (hs : s.WF) (hq : qtype = typeA ∨ qtype = typeAAAA) {x : RR}
    {before rrs : List RR} {w : Rewriting} (hip : w.fakeIP = []) (hnames : w.replacedNames = [])
    (hown : Owners qtype before []) (hx : x.hdr.rrtype = qtype) :
    (rewriteAnswers env dnsCacheTTL domain qtype now (x :: rrs) w s).2 =
        (allocateFakeIP env dnsCacheTTL domain qtype x.hdr.ttl now s).2 ∧
      ∀ w', (rewriteAnswers env dnsCacheTTL domain qtype now (x :: rrs) w s).1 = .ok w' →
        w'.replaced = true ∧
        ∃ ip, (allocateFakeIP env dnsCacheTTL domain qtype x.hdr.ttl now s).1 = .ok ip ∧
          Made (firstOwners qtype [] (x :: rrs)) ip ∧
          w'.answer = w.answer ++ withFakes qtype (fakeRecord ip) before (x :: rrs) := by
  rcases ha : allocateFakeIP env dnsCacheTTL domain qtype x.hdr.ttl now s with ⟨r, s1⟩
  have hens : ensureFakeIP env dnsCacheTTL domain qtype now w.fakeIP x.hdr s =
      (r.wrap "allocate fake ip", s1) := by
    unfold ensureFakeIP
    rw [if_pos hip]
    exact wrap_run ha
  have hrw : rewriteRR env dnsCacheTTL domain qtype now w x = (do
      let fakeIP ← ensureFakeIP env dnsCacheTTL domain qtype now w.fakeIP x.hdr
      lift (replaceRR w fakeIP x)) := if_neg (not_not.mpr hx)
  rw [rewriteAnswers, hrw]
  rcases run_bind_cases hens fun fakeIP => lift (replaceRR w fakeIP x) with
    ⟨ip, hr, hgo⟩ | ⟨-, hst, hno⟩
  · -- the address is there: what follows leaves the state alone
    have hr' := Res.wrap_eq_ok.mp hr
    have hip' : ip ≠ [] := allocated_ne_nil hs hq (by rw [ha, hr'])
    rcases run_bind_cases hgo _ with ⟨w1, hw1, hgo1⟩ | ⟨-, hst, hno⟩
    · obtain ⟨hip1, hrep1, h1⟩ := replaceRR_eq_ok hw1
      rw [hgo1, rewriteAnswers_filled rrs (by rw [hip1]; exact hip')]
      refine ⟨rfl, fun w' hw => ?_⟩
      rw [hnames, if_neg List.not_mem_nil] at h1
      obtain ⟨hn1, fakeRR, hb, hans1⟩ := h1
      obtain ⟨h2, h3, h4⟩ := replaceAll_answer rrs hw hrep1 (hn1 ▸ hown.cons hx)
      rw [hn1, hip1] at h3
      rw [hip1, hans1, buildFakeAnswerRR_record hb, List.append_assoc] at h4
      rw [firstOwners, if_neg (not_not.mpr hx), if_neg List.not_mem_nil]
      refine ⟨h2, ip, hr', List.forall_mem_cons.mpr ⟨buildFakeAnswerRR_record hb ▸ hb, h3⟩, ?_⟩
      rw [withFakes, hown.standsFor_first hx List.not_mem_nil]
      exact h4
    · exact ⟨hst, fun w' hw => absurd hw (hno w')⟩
  · rcases run_bind_cases (Prod.eta _).symm _ with ⟨w1, hw1, -⟩ | ⟨-, hst', hno'⟩
    · exact absurd hw1 (hno w1)
    · exact ⟨hst'.trans hst, fun w' hw => absurd hw (hno' w')⟩

theorem rewriteAnswers_empty (env : Env σ) (dnsCacheTTL : Int) (domain : Bytes) (now : Int)
    (hs : s.WF) (hq : qtype = typeA ∨ qtype = typeAAAA) (rrs : List RR) :
    ∀ {w : Rewriting} {before : List RR}, w.fakeIP = [] → w.replacedNames = [] →
    Owners qtype before [] →
    match rrs.find? (fun rr => rr.hdr.rrtype == qtype) with
    | none =>
      rewriteAnswers env dnsCacheTTL domain qtype now rrs w s =
        (.ok { w with answer := w.answer ++ rrs }, s)
    | some x =>
      (rewriteAnswers env dnsCacheTTL domain qtype now rrs w s).2 =
        (allocateFakeIP env dnsCacheTTL domain qtype x.hdr.ttl now s).2 ∧
      ∀ w', (rewriteAnswers env dnsCacheTTL domain qtype now rrs w s).1 = .ok w' →
        w'.replaced = true ∧
        ∃ ip, (allocateFakeIP env dnsCacheTTL domain qtype x.hdr.ttl now s).1 = .ok ip ∧
          Made (firstOwners qtype [] rrs) ip ∧
          w'.answer = w.answer ++ withFakes qtype (fakeRecord ip) before rrs := by
  induction rrs with
  | nil =>
    intro w before hip hnames hown
    dsimp only [List.find?_nil]
    rw [List.append_nil]
    rfl
  | cons x rrs ih =>
    intro w before hip hnames hown
    by_cases hx : x.hdr.rrtype ≠ qtype
    · have h := ih (w := { w with answer := w.answer ++ [x] }) hip hnames (hown.other hx)
      rw [List.find?_cons_of_neg (by simpa using hx), rewriteAnswers, firstOwners,
        run_bind_ok (rewriteRR_other hx s), if_pos hx]
      cases hf : rrs.find? (fun rr => rr.hdr.rrtype == qtype) with
      | none =>
        rw [hf] at h
        dsimp only at h ⊢
        rw [h, List.append_assoc]
        rfl
      | some y =>
        rw [hf] at h
        refine ⟨h.1, fun w' hw => ?_⟩
        obtain ⟨h1, ip, h2, h3, h4⟩ := h.2 w' hw
        rw [List.append_assoc] at h4
        refine ⟨h1, ip, h2, h3, ?_⟩
        rw [withFakes, standsFor_other hx]
        exact h4
    · rw [List.find?_cons_of_pos (by simpa using hx)]
      exact rewriteAnswers_first hs hq hip hnames hown (not_not.mp hx)

/-! ## the whole query -/

/-- the TTL that the store sees -/
def allocTTL (question : Question) (resp : Msg) : Nat :=
  match resp.answer.find? (fun rr => rr.hdr.rrtype == question.qtype) with
  | some rr => rr.hdr.ttl
  | none => fallbackFakeTTL resp

def replyHeaders (question : Question) (resp : Msg) : List RRHeader :=
  match resp.answer.find? (fun rr => rr.hdr.rrtype == question.qtype) with
  | some _ => firstOwners question.qtype [] resp.answer
  | none => [⟨question.name, question.qtype, question.qclass, fallbackFakeTTL resp⟩]

def replyAnswers (question : Question) (resp : Msg) (ip : Bytes) : List RR :=
  match resp.answer.find? (fun rr => rr.hdr.rrtype == question.qtype) with
  | some _ => withFakes question.qtype (fakeRecord ip) [] resp.answer
  | none => [fakeRecord ip ⟨question.name, question.qtype, question.qclass, fallbackFakeTTL resp⟩]

theorem replyAnswers_made {question : Question} {resp : Msg} {ip : Bytes} {rr : RR}
    (hmade : Made (replyHeaders question resp) ip) (hrr : rr ∈ replyAnswers question resp ip)
    (hq : rr.hdr.rrtype = question.qtype) :
    ∃ h ∈ replyHeaders question resp, buildFakeAnswerRR h ip = .ok rr := by
  have hmem : ∃ h ∈ replyHeaders question resp, rr = fakeRecord ip h := by
    unfold replyAnswers at hrr
    unfold replyHeaders
    split at hrr
    · exact mem_withFakes owners_nil hrr hq
    · exact ⟨_, List.mem_singleton.mpr rfl, List.mem_singleton.mp hrr⟩
  obtain ⟨h, hh, rfl⟩ := hmem
  exact ⟨h, hh, hmade h hh⟩

def Replies (question : Question) (resp : Msg) (ip : Bytes) (msg : Msg) : Prop :=
  Made (replyHeaders question resp) ip ∧ msg = { resp with answer := replyAnswers question resp ip }

theorem fakeReply_spec (env : Env σ) (dnsCacheTTL : Int) (domain : Bytes) (now : Int) (hs : s.WF)
    {question : Question} (resp : Msg) (hq : question.qtype = typeA ∨ question.qtype = typeAAAA) :
    (fakeReply env dnsCacheTTL domain question.qtype now question resp s).2 =
      (allocateFakeIP env dnsCacheTTL domain question.qtype (allocTTL question resp) now s).2 ∧
    ∀ msg, (fakeReply env dnsCacheTTL domain question.qtype now question resp s).1 = .ok msg →
      ∃ ip, (allocateFakeIP env dnsCacheTTL domain question.qtype (allocTTL question resp) now s).1 =
          .ok ip ∧ Replies question resp ip msg := by
  have h := rewriteAnswers_empty env dnsCacheTTL domain now hs hq resp.answer
    (w := {}) rfl rfl owners_nil
  unfold fakeReply allocTTL Replies replyHeaders replyAnswers
  cases hf : resp.answer.find? (fun rr => rr.hdr.rrtype == question.qtype) with
  | some x =>
    rw [hf] at h
    dsimp only at h ⊢
    obtain ⟨h1, h2⟩ := h
    rcases run_bind_cases (Prod.eta _).symm _ with ⟨w, hw, hgo⟩ | ⟨-, hst, hno⟩
    · obtain ⟨hrep, ip, hip, hmade, hans⟩ := h2 w hw
      rw [hgo, if_pos hrep]
      refine ⟨h1, fun msg hmsg => ?_⟩
      cases hmsg
      refine ⟨ip, hip, hmade, ?_⟩
      rw [hans, List.nil_append]
    · exact ⟨hst.trans h1, fun msg hmsg => absurd hmsg (hno msg)⟩
  | none =>
    rw [hf] at h
    dsimp only at h ⊢
    rw [run_bind_ok h, if_neg (by simp)]
    unfold fallbackAnswer
    rcases ha : allocateFakeIP env dnsCacheTTL domain question.qtype (fallbackFakeTTL resp) now s with
      ⟨r, s1⟩
    rcases run_bind_cases (wrap_run ha) _ with ⟨ip, hip, hgo⟩ | ⟨-, hst, hno⟩
    · rw [hgo]
      rcases run_bind_cases (run_lift _ s1) _ with ⟨fakeRR, hb, hgo1⟩ | ⟨-, hst, hno⟩
      · rw [hgo1]
        refine ⟨rfl, fun msg hmsg => ?_⟩
        cases hmsg
        rw [buildQuestionFakeAnswerRR] at hb
        have hrec := buildFakeAnswerRR_record hb
        rw [hrec] at hb ⊢
        exact ⟨ip, Res.wrap_eq_ok.mp hip, List.forall_mem_singleton.mpr hb, rfl⟩
      · exact ⟨hst, fun msg hmsg => absurd hmsg (hno msg)⟩
    · exact ⟨hst, fun msg hmsg => absurd hmsg (hno msg)⟩

/-- the same stores; the recorded answers may differ -/
def SameStores (s s' : DnsState) : Prop := s'.v4 = s.v4 ∧ s'.v6 = s.v6

theorem SameStores.wf {s s' : DnsState} (h : SameStores s s') (hs : s.WF) : s'.WF :=
  ⟨h.1 ▸ hs.v4, h.2 ▸ hs.v6, h.1 ▸ hs.is4, h.2 ▸ hs.is6⟩

theorem SameStores.store {s s' : DnsState} (h : SameStores s s') (qtype : Nat) :
    s'.store qtype = s.store qtype := by
  unfold DnsState.store
  rw [h.1, h.2]

theorem SameStores.setStore {s s' : DnsState} (h : SameStores s s') (qtype : Nat) (t : FakeIPStore) :
    SameStores (s.setStore qtype t) (s'.setStore qtype t) := by
  unfold SameStores DnsState.setStore
  split_ifs
  · exact ⟨rfl, h.2⟩
  · exact ⟨h.1, rfl⟩

theorem rememberAnswers_stores (now : Int) (d : Bytes) (answers : List RR) :
    ∀ st : RecordedDNSResult × DnsState,
      SameStores st.2 (answers.foldl (rememberAnswer d now) st).2 := by
  induction answers with
  | nil => intro st; exact ⟨rfl, rfl⟩
  | cons rr answers ih =>
    intro st
    have hmap : ∀ ip, SameStores st.2 (rememberDomainIPMapping d ip st.2) := by
      intro ip
      unfold rememberDomainIPMapping
      split_ifs <;> exact ⟨rfl, rfl⟩
    have h1 : SameStores st.2 (rememberAnswer d now st rr).2 := by
      unfold rememberAnswer
      cases rr.data with
      | a ip => exact hmap _
      | aaaa ip => exact hmap _
      | other => exact ⟨rfl, rfl⟩
    have h2 := ih (rememberAnswer d now st rr)
    exact ⟨h2.1.trans h1.1, h2.2.trans h1.2⟩

theorem remember_stores (answers : List RR) :
    SameStores s (rememberRecordedDNSAnswers env domain answers now s) := by
  unfold rememberRecordedDNSAnswers
  by_cases h : domain = [] ∨ answers = []
  · rw [if_pos h]
    exact ⟨rfl, rfl⟩
  · rw [if_neg h]
    have hfold := rememberAnswers_stores now (env.lower domain) answers
      ((s.recordedDNSIPs.get (env.lower domain)).getD {}, s)
    dsimp only
    split_ifs
    · exact hfold
    · exact hfold

/-- The question and the upstream response of a query that is answered with a fake address. -/
def fakeQuery (env : Env σ) (exchange : Msg → Res Msg) (req : Msg) : Option (Question × Msg) :=
  match req.question with
  | [question] =>
    if question.qclass = classINET ∧ (question.qtype = typeA ∨ question.qtype = typeAAAA) ∧
        shouldUseFakeIP env (queryDomain env question) = true then
      match exchange req with
      | .ok resp => if resp.rcode = rcodeSuccess then some (question, resp) else none
      | _ => none
    else none
  | _ => none

section
variable {exchange : Msg → Res Msg} {req : Msg}

theorem fakeQuery_eq_some {question : Question} {resp : Msg}
    (h : fakeQuery env exchange req = some (question, resp)) :
    req.question = [question] ∧ question.qclass = classINET ∧
      (question.qtype = typeA ∨ question.qtype = typeAAAA) ∧
      shouldUseFakeIP env (queryDomain env question) = true ∧
      exchange req = .ok resp ∧ resp.rcode = rcodeSuccess := by
  unfold fakeQuery at h
  split at h
  · rename_i q hq
    split_ifs at h with hc
    split at h
    · rename_i r hr
      split_ifs at h with hrc
      cases h
      exact ⟨hq, hc.1, hc.2.1, hc.2.2, hr, hrc⟩
    · cases h
  · cases h

theorem fakeQuery_of {question : Question} {resp : Msg} (h1 : req.question = [question])
    (h2 : question.qclass = classINET) (h3 : question.qtype = typeA ∨ question.qtype = typeAAAA)
    (h4 : shouldUseFakeIP env (queryDomain env question) = true) (h5 : exchange req = .ok resp)
    (h6 : resp.rcode = rcodeSuccess) : fakeQuery env exchange req = some (question, resp) := by
  unfold fakeQuery
  rw [h1]
  dsimp only
  rw [if_pos ⟨h2, h3, h4⟩, h5]
  dsimp only
  rw [if_pos h6]

theorem handleDNSQuery_none (h : fakeQuery env exchange req = none) :
    SameStores s (handleDNSQuery env dnsCacheTTL exchange now req s).2 := by
  unfold handleDNSQuery
  rcases hreq : req.question with _ | ⟨question, _ | ⟨second, rest⟩⟩
  · exact ⟨rfl, rfl⟩
  · dsimp only
    by_cases hc : question.qclass ≠ classINET
    · rw [if_pos hc]
      exact ⟨rfl, rfl⟩
    rw [if_neg hc]
    by_cases ht : question.qtype = typeA ∨ question.qtype = typeAAAA
    · rw [if_pos ht]
      unfold buildFakeAddressResponse
      rcases run_bind_cases (wrap_run (run_lift (exchange req) s)) _ with
        ⟨resp, hresp, hgo⟩ | ⟨-, hst, -⟩
      · have hex := Res.wrap_eq_ok.mp hresp
        rw [hgo]
        unfold answerFrom
        by_cases hrc : resp.rcode ≠ rcodeSuccess
        · rw [if_pos hrc]
          exact ⟨rfl, rfl⟩
        · rw [if_neg hrc, run_bind_ok (run_modify _ s)]
          by_cases hu : shouldUseFakeIP env (queryDomain env question) = true
          · rw [fakeQuery_of hreq (not_not.mp hc) ht hu hex (not_not.mp hrc)] at h
            cases h
          · rw [if_neg hu]
            exact remember_stores _
      · rw [hst]
        exact ⟨rfl, rfl⟩
    · rw [if_neg ht]
      exact ⟨rfl, rfl⟩
  · exact ⟨rfl, rfl⟩

theorem handleDNSQuery_some (dnsCacheTTL now : Int) (s : DnsState) {question : Question} {resp : Msg}
    (h : fakeQuery env exchange req = some (question, resp)) :
    ∃ s0, SameStores s s0 ∧ handleDNSQuery env dnsCacheTTL exchange now req s =
      fakeReply env dnsCacheTTL (queryDomain env question) question.qtype now question resp s0 := by
  obtain ⟨hreq, hc, ht, hu, hex, hrc⟩ := fakeQuery_eq_some h
  refine ⟨rememberRecordedDNSAnswers env (queryDomain env question) resp.answer now s,
    remember_stores resp.answer, ?_⟩
  unfold handleDNSQuery
  rw [hreq]
  dsimp only
  rw [if_neg (not_not.mpr hc), if_pos ht]
  unfold buildFakeAddressResponse answerFrom
  rw [run_bind_ok (wrap_ok (show lift (exchange req) s = (.ok resp, s) by rw [run_lift, hex])),
    if_neg (not_not.mpr hrc), run_bind_ok (run_modify _ s), if_pos hu]

/-- **What a faked query does**: one allocation in the store of its record type, and a reply with the
allocated address in its answer section. -/
theorem handleDNSQuery_fake (dnsCacheTTL now : Int) (hs : s.WF) {question : Question} {resp : Msg}
    (h : fakeQuery env exchange req = some (question, resp)) :
    ∃ r t, (s.store question.qtype).allocate env.lower (queryDomain env question)
        (fakeIPLifetime dnsCacheTTL (allocTTL question resp)) now = some (r, t) ∧
      SameStores (s.setStore question.qtype t) (handleDNSQuery env dnsCacheTTL exchange now req s).2 ∧
      ∀ msg, (handleDNSQuery env dnsCacheTTL exchange now req s).1 = .ok msg →
        ∃ ip, r = .ok ip ∧ Replies question resp ip msg := by
  have hq := (fakeQuery_eq_some h).2.2.1
  obtain ⟨s0, hsame, hrun⟩ := handleDNSQuery_some dnsCacheTTL now s h
  obtain ⟨h1, h2⟩ := fakeReply_spec env dnsCacheTTL (queryDomain env question) now (hsame.wf hs) resp hq
  obtain ⟨r, t, hr, hst, hiff⟩ := allocateFakeIP_run env dnsCacheTTL (queryDomain env question) now
    (hsame.wf hs) hq (allocTTL question resp)
  rw [hsame.store] at hr
  refine ⟨r, t, hr, ?_, fun msg hmsg => ?_⟩
  · rw [hrun, h1, hst]
    exact hsame.setStore _ _
  · rw [hrun] at hmsg
    obtain ⟨ip, hip, hans⟩ := h2 msg hmsg
    exact ⟨ip, (hiff ip).mp hip, hans⟩

end

end

end Bill
