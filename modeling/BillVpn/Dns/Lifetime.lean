import BillVpn.Dns.Rewrite
import BillVpn.Go.Run

/-!
# How long a fake address leads back to its name

A client may use the address of a record for as long as the TTL of the record says.  The store keeps
it for the TTL of the first record only (or `dnsCacheTTL`, if that is longer), and a later query for
the same name sets the expiry anew, also to an earlier instant.

* `DnsEvent`            queries and lookups, each at its reading of the clock;
* `Lasting`             a query whose TTLs the store covers, and that shortens no live entry;
* `step_holds`          an entry over one event;
* `query_lapses`        the lifetime in the store is all the address gets;
* `fake_answers_last`   **along lasting queries every answer stays good for its TTL**;
* `fake_answers_lapse`  both ways in which it does not.
-/

set_option linter.unusedVariables false

namespace Bill
open Go Proc FakeIPStore

inductive DnsEvent where
  | query (exchange : Msg → Res Msg) (now : Int) (req : Msg)
  | lookup (ip : Bytes) (now : Int)

def DnsEvent.now : DnsEvent → Int
  | .query _ now _ => now
  | .lookup _ now => now

def RR.ipText (rr : RR) : Bytes :=
  match rr.data with
  | .a ip => ipString ip
  | .aaaa ip => ipString ip
  | .other _ => []

section
variable {σ : Type} (env : Env σ) (dnsCacheTTL : Int)

def DnsEvent.step : DnsEvent → DnsState → DnsState
  | .query exchange now req, s => (handleDNSQuery env dnsCacheTTL exchange now req s).2
  | .lookup ip now, s => (lookupFakeDomainByIP ip now s).2

/-- The store keeps the address as long as every record of the reply says, and at least as long as
it already meant to. -/
def Lasting : DnsEvent → DnsState → Prop
  | .query exchange now req, s =>
    ∀ question resp, fakeQuery env exchange req = some (question, resp) →
      (∀ h ∈ replyHeaders question resp,
        fakeTTL h.ttl * second ≤ fakeIPLifetime dnsCacheTTL (allocTTL question resp)) ∧
      ∀ e, (s.store question.qtype).domainToEntry.get (queryDomain env question) = some e →
        now < e.expiresAt → e.expiresAt ≤ now + fakeIPLifetime dnsCacheTTL (allocTTL question resp)
  | .lookup _ _, _ => True

variable {env} {dnsCacheTTL} {s : DnsState} {qtype : Nat}

/-! ## lookups -/

theorem lookupFake_run (ip : Bytes) (now : Int) (s : DnsState) :
    lookupFakeDomainByIP ip now s =
      match (s.v4.lookupDomain ip now).1 with
      | some d => (.ok (some d), { s with v4 := (s.v4.lookupDomain ip now).2 })
      | none => (.ok (s.v6.lookupDomain ip now).1,
          { s with v4 := (s.v4.lookupDomain ip now).2, v6 := (s.v6.lookupDomain ip now).2 }) := by
  unfold lookupFakeDomainByIP
  rw [run_bind_ok (show onV4 (lookupIn ip now) s = (.ok (s.v4.lookupDomain ip now).1,
    { s with v4 := (s.v4.lookupDomain ip now).2 }) from rfl)]
  cases (s.v4.lookupDomain ip now).1 <;> rfl

theorem lookupFake_state (ip : Bytes) (now : Int) (s : DnsState) :
    (lookupFakeDomainByIP ip now s).2.v4 = (s.v4.lookupDomain ip now).2 ∧
      ((lookupFakeDomainByIP ip now s).2.v6 = s.v6 ∨
        (lookupFakeDomainByIP ip now s).2.v6 = (s.v6.lookupDomain ip now).2) := by
  rw [lookupFake_run]
  cases (s.v4.lookupDomain ip now).1 with
  | some d => exact ⟨rfl, Or.inl rfl⟩
  | none => exact ⟨rfl, Or.inr rfl⟩

theorem lookupFake_wf (hs : s.WF) (ip : Bytes) (now : Int) :
    (lookupFakeDomainByIP ip now s).2.WF := by
  obtain ⟨h4, h6⟩ := lookupFake_state ip now s
  obtain ⟨hw4, hp4⟩ := lookupDomain_wf hs.v4 ip now
  obtain ⟨hw6, hp6⟩ := lookupDomain_wf hs.v6 ip now
  rcases h6 with h6 | h6
  · exact ⟨h4 ▸ hw4, h6 ▸ hs.v6, by rw [h4, hp4]; exact hs.is4, by rw [h6]; exact hs.is6⟩
  · exact ⟨h4 ▸ hw4, h6 ▸ hw6, by rw [h4, hp4]; exact hs.is4, by rw [h6, hp6]; exact hs.is6⟩

theorem held_addr {t : FakeIPStore} (ht : t.WF) {ip : Bytes} {e : FakeIPEntry}
    (h : t.ipToEntry.get ip = some e) :
    ∃ a : Addr, a.text = ip ∧ a.zone = [] ∧ a.bitLen = t.pfx.addr.bitLen := by
  obtain ⟨k, a, -, -, ha, htext⟩ := ht.held h
  obtain ⟨hl, hz, -⟩ := Addr.withVal_eq_some.mp ha
  exact ⟨a, htext, hz.trans t.pfx.zoneless, hl⟩

theorem stores_disjoint (hs : s.WF) {ip : Bytes} {e e' : FakeIPEntry}
    (h4 : s.v4.ipToEntry.get ip = some e) (h6 : s.v6.ipToEntry.get ip = some e') : False := by
  obtain ⟨a, ha, -, hla⟩ := held_addr hs.v4 h4
  obtain ⟨b, hb, -, hlb⟩ := held_addr hs.v6 h6
  rw [hs.is4] at hla
  rw [hs.is6, ← text_injective (ha.trans hb.symm), hla] at hlb
  exact absurd hlb (by decide)

theorem lookupDomain_absent {t : FakeIPStore} {ip : Bytes} {now : Int}
    (h : ∀ e, t.ipToEntry.get ip ≠ some e) : (t.lookupDomain ip now).1 = none := by
  unfold lookupDomain
  rw [Option.eq_none_iff_forall_ne_some.mpr h]

theorem lookupFake_held (hs : s.WF) {ip : Bytes} {now : Int} {e : FakeIPEntry}
    (h : (s.store qtype).ipToEntry.get ip = some e) :
    (lookupFakeDomainByIP ip now s).1 = .ok ((s.store qtype).lookupDomain ip now).1 := by
  rw [lookupFake_run]
  unfold DnsState.store at h ⊢
  by_cases hq : qtype = typeA
  · rw [if_pos hq] at h ⊢
    cases (s.v4.lookupDomain ip now).1 with
    | some d => rfl
    | none => exact congrArg Res.ok (lookupDomain_absent fun e' h6 => stores_disjoint hs h h6)
  · rw [if_neg hq] at h ⊢
    rw [lookupDomain_absent fun e' h4 => stores_disjoint hs h4 h]

/-! ## an entry that is meant to last -/

/-- the store of the record type keeps the address for the name at least until `deadline` -/
def Holds (qtype : Nat) (d ip : Bytes) (deadline : Int) (s : DnsState) : Prop :=
  ∃ e, (s.store qtype).domainToEntry.get d = some e ∧ e.ip = ip ∧ deadline ≤ e.expiresAt

theorem Holds.lookup {d ip : Bytes} {deadline now : Int} (h : Holds qtype d ip deadline s) (hs : s.WF)
    (hnow : now < deadline) : (lookupFakeDomainByIP ip now s).1 = .ok (some d) := by
  obtain ⟨e, he, rfl, hle⟩ := h
  obtain ⟨rfl, hip⟩ := (hs.store qtype).paired.forth he
  rw [lookupFake_held hs hip, lookup_live hip (show now < e.expiresAt by omega)]

theorem dnsStep_wf (hs : s.WF) (ev : DnsEvent) : (ev.step env dnsCacheTTL s).WF := by
  cases ev with
  | lookup ip now => exact lookupFake_wf hs ip now
  | query exchange now req =>
    cases hf : fakeQuery env exchange req with
    | none => exact (handleDNSQuery_none hf).wf hs
    | some qr =>
      obtain ⟨question, resp⟩ := qr
      obtain ⟨r, t, hr, hsame, -⟩ := handleDNSQuery_fake dnsCacheTTL now hs hf
      obtain ⟨r', hr', hwf, hp⟩ := allocate_wf (hs.store question.qtype) env.lower
        (queryDomain env question) (fakeIPLifetime dnsCacheTTL (allocTTL question resp)) now
      rw [hr] at hr'
      cases hr'
      exact hsame.wf (hs.setStore hwf hp)

theorem step_holds (hlower : ∀ d, env.lower (env.lower d) = env.lower d) {ev : DnsEvent}
    {d ip : Bytes} {deadline : Int} (hs : s.WF) (hlast : Lasting env dnsCacheTTL ev s)
    (hnow : ev.now < deadline) (h : Holds qtype d ip deadline s) :
    Holds qtype d ip deadline (ev.step env dnsCacheTTL s) := by
  obtain ⟨e, he, rfl, hle⟩ := h
  cases ev with
  | lookup i now =>
    have hlive : now < e.expiresAt := Int.lt_of_lt_of_le hnow hle
    obtain ⟨h4, h6⟩ := lookupFake_state i now s
    refine ⟨e, ?_, rfl, hle⟩
    show ((lookupFakeDomainByIP i now s).2.store qtype).domainToEntry.get d = some e
    unfold DnsState.store at he ⊢
    by_cases hq : qtype = typeA
    · rw [if_pos hq] at he ⊢
      rw [h4]
      exact lookupDomain_keeps hs.v4 he hlive
    · rw [if_neg hq] at he ⊢
      rcases h6 with h6 | h6
      · rw [h6]
        exact he
      · rw [h6]
        exact lookupDomain_keeps hs.v6 he hlive
  | query exchange now req =>
    have hlive : now < e.expiresAt := Int.lt_of_lt_of_le hnow hle
    show Holds qtype d e.ip deadline (handleDNSQuery env dnsCacheTTL exchange now req s).2
    cases hf : fakeQuery env exchange req with
    | none => exact ⟨e, by rw [(handleDNSQuery_none hf).store]; exact he, rfl, hle⟩
    | some qr =>
      obtain ⟨question, resp⟩ := qr
      obtain ⟨r, t, hr, hsame, -⟩ := handleDNSQuery_fake dnsCacheTTL now hs hf
      by_cases hq : (qtype = typeA) = (question.qtype = typeA)
      · -- the store of the entry makes the allocation
        have hst : s.store qtype = s.store question.qtype := DnsState.store_congr hq
        rw [hst] at he
        obtain ⟨r', e', hr', he', hip', hexp⟩ := allocate_keeps (hs.store question.qtype) env.lower
          (queryDomain env question) (fakeIPLifetime dnsCacheTTL (allocTTL question resp)) he hlive
        rw [hr] at hr'
        cases hr'
        refine ⟨e', ?_, hip', ?_⟩
        · rw [hsame.store, DnsState.store_congr hq, DnsState.store_setStore_self]
          exact he'
        · have hdom : env.lower (queryDomain env question) = queryDomain env question := hlower _
          rw [hexp, hdom, lifetimeOr_fake]
          by_cases hd : d = queryDomain env question
          · rw [if_pos hd]
            exact Int.le_trans hle ((hlast question resp hf).2 e (hd ▸ he) hlive)
          · rw [if_neg hd]
            exact hle
      · refine ⟨e, ?_, rfl, hle⟩
        rw [hsame.store, DnsState.store_setStore_ne t hq]
        exact he

/-! ## the records of a reply -/

theorem buildFakeAnswerRR_spec {t : FakeIPStore} (ht : t.WF) {ip : Bytes} {e : FakeIPEntry}
    (he : t.ipToEntry.get ip = some e)
    (hl : t.pfx.addr.bitLen = if qtype = typeA then 32 else 128) {h : RRHeader} {rr : RR}
    (hb : buildFakeAnswerRR h ip = .ok rr) (hq : rr.hdr.rrtype = qtype) :
    rr.ipText = ip ∧ rr.hdr.ttl = fakeTTL h.ttl := by
  obtain ⟨a, rfl, hz, hla⟩ := held_addr ht he
  rw [hl] at hla
  unfold buildFakeAnswerRR at hb
  rw [parseIP_text hz] at hb
  dsimp only at hb
  by_cases hA : h.rrtype = typeA
  · rw [if_pos hA] at hb
    by_cases hn : to4 a.as16 = []
    · rw [if_pos hn] at hb; cases hb
    · rw [if_neg hn] at hb
      cases hb
      rw [if_pos (hq.symm.trans hA)] at hla
      cases a with
      | v4 n => exact ⟨ipString_v4 n, rfl⟩
      | v6 n z => exact absurd (show 128 = 32 from hla) (by decide)
  · rw [if_neg hA] at hb
    by_cases hAAAA : h.rrtype = typeAAAA
    · rw [if_pos hAAAA] at hb
      by_cases hn : a.as16 = [] ∨ to4 a.as16 ≠ []
      · rw [if_pos hn] at hb; cases hb
      · rw [if_neg hn] at hb
        cases hb
        rw [if_neg fun h' => hA (hq.trans h')] at hla
        cases a with
        | v4 n => exact absurd (show 32 = 128 from hla) (by decide)
        | v6 n z =>
          have hz' : z = [] := hz
          subst hz'
          exact ⟨ipString_v6 (not_not.mp (not_or.mp hn).2), rfl⟩
    · rw [if_neg hAAAA] at hb
      cases hb

section
variable {exchange : Msg → Res Msg} {now : Int} {req reply : Msg} {question : Question} {resp : Msg}

theorem query_entry (hs : s.WF) (hlower : ∀ d, env.lower (env.lower d) = env.lower d)
    (hf : fakeQuery env exchange req = some (question, resp))
    (hok : (handleDNSQuery env dnsCacheTTL exchange now req s).1 = .ok reply) {rr : RR}
    (hrr : rr ∈ reply.answer) (hq : rr.hdr.rrtype = question.qtype) :
    ((handleDNSQuery env dnsCacheTTL exchange now req s).2.store question.qtype).ipToEntry.get
        rr.ipText = some ⟨queryDomain env question, rr.ipText,
          now + fakeIPLifetime dnsCacheTTL (allocTTL question resp)⟩ ∧
      ∃ h ∈ replyHeaders question resp, rr.hdr.ttl = fakeTTL h.ttl := by
  obtain ⟨r, t, hr, hsame, hreply⟩ := handleDNSQuery_fake dnsCacheTTL now hs hf
  obtain ⟨ip, rfl, hmade, rfl⟩ := hreply reply hok
  obtain ⟨h, hmem, hb⟩ := replyAnswers_made hmade hrr hq
  obtain ⟨r', hr', hwf, hp⟩ := allocate_wf (hs.store question.qtype) env.lower
    (queryDomain env question) (fakeIPLifetime dnsCacheTTL (allocTTL question resp)) now
  rw [hr] at hr'
  cases hr'
  have hdom : env.lower (queryDomain env question) = queryDomain env question := hlower _
  have hentry := allocate_entry (hs.store question.qtype) hr
  rw [hdom, lifetimeOr_fake] at hentry
  have hfam : t.pfx.addr.bitLen = if question.qtype = typeA then 32 else 128 := by
    rw [show t.pfx = _ from hp]
    unfold DnsState.store
    split_ifs
    · exact hs.is4
    · exact hs.is6
  obtain ⟨htext, httl⟩ := buildFakeAnswerRR_spec hwf hentry hfam hb hq
  rw [hsame.store, DnsState.store_setStore_self, htext]
  exact ⟨hentry, h, hmem, httl⟩

theorem query_holds (hs : s.WF) (hlower : ∀ d, env.lower (env.lower d) = env.lower d)
    (hlast : Lasting env dnsCacheTTL (.query exchange now req) s)
    (hf : fakeQuery env exchange req = some (question, resp))
    (hok : (handleDNSQuery env dnsCacheTTL exchange now req s).1 = .ok reply) {rr : RR}
    (hrr : rr ∈ reply.answer) (hq : rr.hdr.rrtype = question.qtype) :
    Holds question.qtype (queryDomain env question) rr.ipText (now + rr.hdr.ttl * second)
      (handleDNSQuery env dnsCacheTTL exchange now req s).2 := by
  obtain ⟨hentry, h, hmem, httl⟩ := query_entry hs hlower hf hok hrr hq
  have hwf : (handleDNSQuery env dnsCacheTTL exchange now req s).2.WF :=
    dnsStep_wf hs (.query exchange now req)
  have hle := (hlast question resp hf).1 h hmem
  refine ⟨_, ((hwf.store question.qtype).paired.back hentry).2, rfl, ?_⟩
  show now + rr.hdr.ttl * second ≤ now + fakeIPLifetime dnsCacheTTL (allocTTL question resp)
  rw [httl]
  omega

/-- The bound is sharp: from the end of the lifetime on, whatever TTLs the records of this reply or
of an earlier one carry, the address leads nowhere. -/
theorem query_lapses (hs : s.WF) (hlower : ∀ d, env.lower (env.lower d) = env.lower d)
    (hf : fakeQuery env exchange req = some (question, resp))
    (hok : (handleDNSQuery env dnsCacheTTL exchange now req s).1 = .ok reply) {rr : RR}
    (hrr : rr ∈ reply.answer) (hq : rr.hdr.rrtype = question.qtype) {time : Int}
    (htime : now + fakeIPLifetime dnsCacheTTL (allocTTL question resp) ≤ time) :
    (lookupFakeDomainByIP rr.ipText time (handleDNSQuery env dnsCacheTTL exchange now req s).2).1 =
      .ok none := by
  obtain ⟨hentry, -⟩ := query_entry hs hlower hf hok hrr hq
  have hwf : (handleDNSQuery env dnsCacheTTL exchange now req s).2.WF :=
    dnsStep_wf hs (.query exchange now req)
  rw [lookupFake_held hwf hentry]
  unfold lookupDomain
  rw [hentry]
  dsimp only
  rw [if_neg]
  exact fun hl => absurd (of_decide_eq_true hl) (Int.not_lt.mpr htime)

end

/-- **Every answer stays good for its TTL**, along any run of queries and lookups with a clock that
does not go back, as long as every query is lasting. -/
theorem fake_answers_last (env : Env σ) (hlower : ∀ d, env.lower (env.lower d) = env.lower d)
    (dnsCacheTTL : Int) (before after : List DnsEvent) (exchange : Msg → Res Msg) (now time : Int)
    (req reply resp : Msg) (question : Question) (rr : RR)
    (hlast : Along (DnsEvent.step env dnsCacheTTL) (Lasting env dnsCacheTTL)
      (before ++ .query exchange now req :: after) {})
    (hclock : ((before ++ .query exchange now req :: after).map DnsEvent.now ++ [time]).Pairwise
      (· ≤ ·))
    (hf : fakeQuery env exchange req = some (question, resp))
    (hok : (handleDNSQuery env dnsCacheTTL exchange now req
      (runAll (DnsEvent.step env dnsCacheTTL) before {})).1 = .ok reply)
    (hrr : rr ∈ reply.answer) (hq : rr.hdr.rrtype = question.qtype)
    (htime : time < now + rr.hdr.ttl * second) :
    (lookupFakeDomainByIP rr.ipText time (runAll (DnsEvent.step env dnsCacheTTL)
      (before ++ .query exchange now req :: after) {})).1 = .ok (some (queryDomain env question)) := by
  have hle : ∀ ev ∈ after, ev.now ≤ time := by
    intro ev hev
    refine (List.pairwise_append.mp hclock).2.2 ev.now ?_ time (List.mem_singleton.mpr rfl)
    exact List.mem_map_of_mem (List.mem_append_right _ (List.mem_cons_of_mem _ hev))
  obtain ⟨hlast1, hquery, hlast2⟩ := along_append.mp hlast
  have hs : (runAll (DnsEvent.step env dnsCacheTTL) before {}).WF :=
    hlast1.invariant (I := DnsState.WF) (fun ev s _ hs => dnsStep_wf hs ev) DnsState.init_wf
  have hhold := query_holds hs hlower hquery hf hok hrr hq
  rw [runAll_append, runAll_cons]
  -- the invariant of the rest of the run: the entry is there, and good until the deadline
  have hinv := (Along.of_forall hle hlast2).invariant
    (I := fun s => s.WF ∧ Holds question.qtype (queryDomain env question) rr.ipText
      (now + rr.hdr.ttl * second) s)
    (fun ev s hev hI => ⟨dnsStep_wf hI.1 ev,
      step_holds hlower hI.1 hev.1 (Int.lt_of_le_of_lt hev.2 htime) hI.2⟩)
    ⟨dnsStep_wf hs _, hhold⟩
  exact hinv.2.lookup hinv.1 htime

end

/-! ## two ways to lapse -/

def ruleQuery : Msg := { question := [⟨lit "blocked.example.", typeA, classINET⟩] }

/-- an upstream answer with the given owners and TTLs -/
def aRecords (owners : List (Bytes × Nat)) : Msg :=
  { ruleQuery with answer := owners.map fun o => ⟨⟨o.1, typeA, classINET, o.2⟩, .a [192, 0, 2, 7]⟩ }

def ruleAnswer (ttl : Nat) : Msg → Res Msg := fun _ => .ok (aRecords [(lit "blocked.example.", ttl)])

theorem fake_answers_last_once :
    (lookupFakeDomainByIP (lit "198.18.0.1") (29 * second)
      (runAll (DnsEvent.step (oneRuleEnv {} {}) 0)
        ([] ++ .query (ruleAnswer 30) 0 ruleQuery :: [.lookup (lit "198.18.0.1") (5 * second)])
        {})).1 = .ok (some (lit "blocked.example")) := by
  have hfake : fakeQuery (oneRuleEnv {} {}) (ruleAnswer 30) ruleQuery =
      some (⟨lit "blocked.example.", typeA, classINET⟩, aRecords [(lit "blocked.example.", 30)]) := by
    decide +kernel
  have h := fake_answers_last (oneRuleEnv {} {}) (fun _ => rfl) 0 []
    [.lookup (lit "198.18.0.1") (5 * second)] (ruleAnswer 30) 0 (29 * second) ruleQuery
    { ruleQuery with answer := [⟨⟨lit "blocked.example.", typeA, classINET, 30⟩, .a [198, 18, 0, 1]⟩] }
    _ _ ⟨⟨lit "blocked.example.", typeA, classINET, 30⟩, .a [198, 18, 0, 1]⟩
    ⟨fun question resp hq => by
      rw [hfake] at hq
      cases hq
      exact ⟨by decide +kernel, fun e he => by cases he⟩, trivial, trivial⟩
    (by decide +kernel) hfake (by decide +kernel) (by decide +kernel) rfl (by decide +kernel)
  rwa [show RR.ipText ⟨⟨lit "blocked.example.", typeA, classINET, 30⟩, .a [198, 18, 0, 1]⟩ =
      lit "198.18.0.1" by decide +kernel,
    show queryDomain (oneRuleEnv {} {}) ⟨lit "blocked.example.", typeA, classINET⟩ =
      lit "blocked.example" by decide +kernel] at h

/-- the second record of a reply outlives its address; and a second query shortens it -/
theorem fake_answers_lapse :
    (handleDNSQuery (oneRuleEnv {} {}) 0
      (fun _ => .ok (aRecords [(lit "blocked.example.", 1), (lit "cdn.example.", 3600)])) 0 ruleQuery
      {}).1 = .ok { ruleQuery with answer :=
        [⟨⟨lit "blocked.example.", typeA, classINET, 1⟩, .a [198, 18, 0, 1]⟩,
          ⟨⟨lit "cdn.example.", typeA, classINET, 3600⟩, .a [198, 18, 0, 1]⟩] } ∧
    (lookupFakeDomainByIP (lit "198.18.0.1") (2 * second)
      (runAll (DnsEvent.step (oneRuleEnv {} {}) 0)
        [.query (fun _ => .ok (aRecords [(lit "blocked.example.", 1), (lit "cdn.example.", 3600)])) 0
          ruleQuery] {})).1 = .ok none ∧
    (handleDNSQuery (oneRuleEnv {} {}) 0 (ruleAnswer 3600) 0 ruleQuery {}).1 =
      .ok { ruleQuery with answer :=
        [⟨⟨lit "blocked.example.", typeA, classINET, 3600⟩, .a [198, 18, 0, 1]⟩] } ∧
    (lookupFakeDomainByIP (lit "198.18.0.1") (3 * second)
      (runAll (DnsEvent.step (oneRuleEnv {} {}) 0)
        [.query (ruleAnswer 3600) 0 ruleQuery, .query (ruleAnswer 1) second ruleQuery] {})).1 =
      .ok none := by
  refine ⟨?_, ?_, ?_, ?_⟩ <;> decide +kernel

end Bill
