import BillVpn.Dns.Lifetime

/-!
# What a faked reply says

The reply to a query for a matched name is the upstream response with another answer section.  Where
upstream gave addresses, each owner name keeps one record, in the place of its first, with the fake
address; where it gave none, there is one record for the question itself.

* `withFakes_others`    the records of other types stay, in order;
* `withFakes_owners`    one fake record for each owner name;
* `fallbackFakeTTL_least`   the TTL of a reply that is made up;
* `fake_reply`          **the whole reply**, in every state that queries and lookups can reach.
-/

set_option linter.unusedVariables false

namespace Bill
open Go Proc FakeIPStore

/-! ## the answer section -/

/-- the owner names of the records of one type -/
def ownersOf (qtype : Nat) (answer : List RR) : List Bytes :=
  (answer.filter fun rr => rr.hdr.rrtype = qtype).map fun rr => rr.hdr.name

def othersOf (qtype : Nat) (answer : List RR) : List RR :=
  answer.filter fun rr => rr.hdr.rrtype ≠ qtype

section
variable {qtype : Nat} {x : RR} {xs : List RR}

theorem ownersOf_cons_eq (hx : x.hdr.rrtype = qtype) :
    ownersOf qtype (x :: xs) = x.hdr.name :: ownersOf qtype xs := by
  unfold ownersOf
  rw [List.filter_cons_of_pos (by simpa using hx), List.map_cons]

theorem ownersOf_cons_ne (hx : x.hdr.rrtype ≠ qtype) :
    ownersOf qtype (x :: xs) = ownersOf qtype xs := by
  unfold ownersOf
  rw [List.filter_cons_of_neg (by simpa using hx)]

theorem othersOf_cons_eq (hx : x.hdr.rrtype = qtype) :
    othersOf qtype (x :: xs) = othersOf qtype xs := by
  unfold othersOf
  rw [List.filter_cons_of_neg (by simpa using hx)]

theorem othersOf_cons_ne (hx : x.hdr.rrtype ≠ qtype) :
    othersOf qtype (x :: xs) = x :: othersOf qtype xs := by
  unfold othersOf
  rw [List.filter_cons_of_pos (by simpa using hx)]

end

/-- the fake record keeps the type and the owner of the header -/
structure KeepsOwner (fake : RRHeader → RR) : Prop where
  rrtype : ∀ h, (fake h).hdr.rrtype = h.rrtype
  name : ∀ h, (fake h).hdr.name = h.name

section
variable {qtype : Nat} {fake : RRHeader → RR} {before rrs : List RR} {names : List Bytes}

theorem withFakes_others (hk : KeepsOwner fake) (h : Owners qtype before names) :
    othersOf qtype (withFakes qtype fake before rrs) = othersOf qtype rrs := by
  induction rrs generalizing before names with
  | nil => rfl
  | cons x rrs ih =>
    rw [withFakes]
    by_cases hx : x.hdr.rrtype ≠ qtype
    · rw [standsFor_other hx, List.singleton_append, othersOf_cons_ne hx, othersOf_cons_ne hx,
        ih (h.other hx)]
    · have hx' := not_not.mp hx
      rw [othersOf_cons_eq hx']
      by_cases hn : x.hdr.name ∈ names
      · rw [h.standsFor_again hx' hn, List.nil_append, ih (h.again hx' hn)]
      · rw [h.standsFor_first hx' hn, List.singleton_append,
          othersOf_cons_eq ((hk.rrtype _).trans hx'), ih (h.cons hx')]

theorem withFakes_owners (hk : KeepsOwner fake) (h : Owners qtype before names) :
    (ownersOf qtype (withFakes qtype fake before rrs)).Nodup ∧
      ∀ name, name ∈ ownersOf qtype (withFakes qtype fake before rrs) ↔
        name ∈ ownersOf qtype rrs ∧ name ∉ names := by
  induction rrs generalizing before names with
  | nil => exact ⟨List.nodup_nil, fun name => ⟨fun h => (nomatch h), fun h => (nomatch h.1)⟩⟩
  | cons x rrs ih =>
    rw [withFakes]
    by_cases hx : x.hdr.rrtype ≠ qtype
    · rw [standsFor_other hx, List.singleton_append, ownersOf_cons_ne hx, ownersOf_cons_ne hx]
      exact ih (h.other hx)
    · have hx' := not_not.mp hx
      rw [ownersOf_cons_eq hx']
      by_cases hn : x.hdr.name ∈ names
      · obtain ⟨h1, h2⟩ := ih (h.again hx' hn)
        rw [h.standsFor_again hx' hn, List.nil_append]
        refine ⟨h1, fun name => (h2 name).trans ?_⟩
        rw [List.mem_cons]
        exact ⟨fun hh => ⟨.inr hh.1, hh.2⟩,
          fun hh => ⟨hh.1.resolve_left fun heq => hh.2 (heq ▸ hn), hh.2⟩⟩
      · obtain ⟨h1, h2⟩ := ih (h.cons hx')
        rw [h.standsFor_first hx' hn, List.singleton_append,
          ownersOf_cons_eq ((hk.rrtype _).trans hx'), hk.name, List.nodup_cons]
        refine ⟨⟨fun hmem => ((h2 _).mp hmem).2 List.mem_cons_self, h1⟩, fun name => ?_⟩
        rw [List.mem_cons, List.mem_cons, h2 name, List.mem_cons]
        by_cases heq : name = x.hdr.name
        · rw [heq]
          exact ⟨fun _ => ⟨.inl rfl, hn⟩, fun _ => .inl rfl⟩
        · simp only [heq, false_or]

theorem withFakes_congr {fake' : RRHeader → RR}
    (h : ∀ hd : RRHeader, hd.rrtype = qtype → fake hd = fake' hd) :
    withFakes qtype fake before rrs = withFakes qtype fake' before rrs := by
  induction rrs generalizing before with
  | nil => rfl
  | cons x rrs ih =>
    have hx : standsFor qtype fake before x = standsFor qtype fake' before x := by
      unfold standsFor
      by_cases hx : x.hdr.rrtype ≠ qtype
      · rw [if_pos hx, if_pos hx]
      · rw [if_neg hx, if_neg hx, h _ (not_not.mp hx)]
    rw [withFakes, withFakes, hx, ih]

end

/-! ## the TTL of a record that is made up -/

def Msg.records (m : Msg) : List RR := m.answer ++ m.ns ++ m.extra

/-- the smallest TTL of the response that is not 0, or a minute if there is none -/
def LeastTTL (m : Msg) (ttl : Nat) : Prop :=
  if ∃ rr ∈ m.records, rr.hdr.ttl ≠ 0 then
    IsLeast {t | t ≠ 0 ∧ ∃ rr ∈ m.records, rr.hdr.ttl = t} ttl
  else ttl = 60

theorem considerTTL_spec (m : Nat) (rr : RR) :
    (considerTTL m rr = 0 ↔ m = 0 ∧ rr.hdr.ttl = 0) ∧
      (considerTTL m rr = m ∨ considerTTL m rr = rr.hdr.ttl) ∧
      (m ≠ 0 → considerTTL m rr ≤ m) ∧ (rr.hdr.ttl ≠ 0 → considerTTL m rr ≤ rr.hdr.ttl) := by
  unfold considerTTL
  split_ifs <;> omega

theorem foldl_considerTTL (rrs : List RR) (m : Nat) :
    (rrs.foldl considerTTL m = 0 ↔ m = 0 ∧ ∀ rr ∈ rrs, rr.hdr.ttl = 0) ∧
      (rrs.foldl considerTTL m = m ∨ ∃ rr ∈ rrs, rr.hdr.ttl = rrs.foldl considerTTL m) ∧
      (m ≠ 0 → rrs.foldl considerTTL m ≤ m) ∧
      ∀ rr ∈ rrs, rr.hdr.ttl ≠ 0 → rrs.foldl considerTTL m ≤ rr.hdr.ttl := by
  induction rrs generalizing m with
  | nil => exact ⟨by simp, .inl rfl, fun _ => Nat.le_refl m, fun rr h => (nomatch h)⟩
  | cons x rrs ih =>
    obtain ⟨h1, h2, h3, h4⟩ := ih (considerTTL m x)
    obtain ⟨hzero, hstep, hm, hx⟩ := considerTTL_spec m x
    rw [List.foldl_cons]
    refine ⟨?_, ?_, fun hne => ?_, fun rr hrr hne => ?_⟩
    · rw [h1, hzero, List.forall_mem_cons, and_assoc]
    · rcases h2 with h2 | ⟨rr, hrr, heq⟩
      · rcases hstep with hs | hs
        · exact .inl (h2.trans hs)
        · exact .inr ⟨x, List.mem_cons_self, (h2.trans hs).symm⟩
      · exact .inr ⟨rr, List.mem_cons_of_mem _ hrr, heq⟩
    · exact (h3 fun h0 => hne (hzero.mp h0).1).trans (hm hne)
    · rcases List.mem_cons.mp hrr with rfl | hrr
      · exact (h3 fun h0 => hne (hzero.mp h0).2).trans (hx hne)
      · exact h4 rr hrr hne

theorem fallbackFakeTTL_least (m : Msg) : LeastTTL m (fallbackFakeTTL m) := by
  obtain ⟨h1, h2, -, h4⟩ := foldl_considerTTL m.records 0
  have hfall : fallbackFakeTTL m = if m.records.foldl considerTTL 0 = 0 then defaultFakeTTL
      else m.records.foldl considerTTL 0 := rfl
  unfold LeastTTL
  by_cases hz : m.records.foldl considerTTL 0 = 0
  · rw [hfall, if_pos hz, if_neg fun ⟨rr, hrr, hne⟩ => hne ((h1.mp hz).2 rr hrr)]
    rfl
  · obtain ⟨rr, hrr, heq⟩ := h2.resolve_left hz
    rw [hfall, if_neg hz, if_pos ⟨rr, hrr, heq ▸ hz⟩]
    refine ⟨⟨hz, rr, hrr, heq⟩, ?_⟩
    rintro t ⟨ht, y, hy, rfl⟩
    exact h4 y hy ht

/-! ## the reply -/

/-- the states that queries and lookups lead to, under configurations that may change in between; what
the recorded answers and the reverse cache hold is left open -/
inductive DnsState.Reachable (σ : Type) : DnsState → Prop where
  | init {s : DnsState} (h : SameStores {} s) : Reachable σ s
  | step {s : DnsState} (env : Env σ) (dnsCacheTTL : Int) (ev : DnsEvent) (h : Reachable σ s) :
    Reachable σ (ev.step env dnsCacheTTL s)
  | caches {s s' : DnsState} (h : Reachable σ s) (hsame : SameStores s s') : Reachable σ s'

theorem DnsState.Reachable.wf {σ : Type} {s : DnsState} (h : s.Reachable σ) : s.WF := by
  induction h with
  | init h => exact h.wf DnsState.init_wf
  | step env dnsCacheTTL ev h ih => exact dnsStep_wf ih ev
  | caches h hsame ih => exact hsame.wf ih

/-- the fake record of a header: the TTL of the header, or a minute for 0, and the address -/
def fakeWith (address : RData) (h : RRHeader) : RR :=
  ⟨{ h with ttl := if h.ttl = 0 then 60 else h.ttl }, address⟩

theorem fakeWith_keeps (address : RData) : KeepsOwner (fakeWith address) :=
  ⟨fun _ => rfl, fun _ => rfl⟩

def fakeAddress (qtype : Nat) (ip : Bytes) : RData :=
  if qtype = typeA then .a (to4 (parseIP ip)) else .aaaa (parseIP ip)

theorem fakeRecord_eq {ip : Bytes} {h : RRHeader} {qtype : Nat} (hq : h.rrtype = qtype) :
    fakeRecord ip h = fakeWith (fakeAddress qtype ip) h := by
  subst hq
  rfl

/-- what a reply to `question` says, with the response of upstream at hand -/
structure Faked (question : Question) (resp reply : Msg) (address : RData) : Prop where
  /-- upstream gave addresses -/
  found : question.qtype ∈ resp.answer.map (·.hdr.rrtype) →
    reply.answer = withFakes question.qtype (fakeWith address) [] resp.answer ∧
    (ownersOf question.qtype reply.answer).Nodup ∧
    (∀ name, name ∈ ownersOf question.qtype reply.answer ↔
      name ∈ ownersOf question.qtype resp.answer) ∧
    othersOf question.qtype reply.answer = othersOf question.qtype resp.answer
  /-- and upstream gave none -/
  missing : question.qtype ∉ resp.answer.map (·.hdr.rrtype) → ∃ ttl, LeastTTL resp ttl ∧
    reply.answer = [⟨⟨question.name, question.qtype, question.qclass, ttl⟩, address⟩]
  /-- header, question, authority and additional sections -/
  rest : { reply with answer := [] } = { resp with answer := [] }

theorem Faked.data {question : Question} {resp reply : Msg} {address : RData}
    (h : Faked question resp reply address) {rr : RR} (hrr : rr ∈ reply.answer)
    (hq : rr.hdr.rrtype = question.qtype) : rr.data = address := by
  by_cases hmem : question.qtype ∈ resp.answer.map (·.hdr.rrtype)
  · rw [(h.found hmem).1] at hrr
    obtain ⟨hd, -, rfl⟩ := mem_withFakes owners_nil hrr hq
    rfl
  · obtain ⟨ttl, -, hans⟩ := h.missing hmem
    rw [hans, List.mem_singleton] at hrr
    rw [hrr]

theorem find_type {answer : List RR} {qtype : Nat} :
    answer.find? (fun rr => rr.hdr.rrtype == qtype) = none ↔ qtype ∉ answer.map (·.hdr.rrtype) := by
  rw [List.find?_eq_none, List.mem_map]
  simp only [beq_iff_eq, not_exists, not_and]

theorem LeastTTL.ne_zero {m : Msg} {ttl : Nat} (h : LeastTTL m ttl) : ttl ≠ 0 := by
  unfold LeastTTL at h
  split_ifs at h
  · exact h.1.1
  · omega

theorem replies_faked {question : Question} {resp reply : Msg} {ip : Bytes}
    (h : Replies question resp ip reply) :
    Faked question resp reply (fakeAddress question.qtype ip) := by
  obtain ⟨-, rfl⟩ := h
  unfold replyAnswers
  refine ⟨fun hmem => ?_, fun hmem => ?_, rfl⟩
  · obtain ⟨x, hx⟩ := Option.ne_none_iff_exists'.mp (mt find_type.mp (not_not.mpr hmem))
    have hans : withFakes question.qtype (fakeRecord ip) [] resp.answer =
        withFakes question.qtype (fakeWith (fakeAddress question.qtype ip)) [] resp.answer :=
      withFakes_congr fun hd hq => fakeRecord_eq hq
    have howners : Owners question.qtype [] [] := owners_nil
    obtain ⟨h1, h2⟩ := withFakes_owners (fakeWith_keeps (fakeAddress question.qtype ip)) howners
    rw [hx]
    dsimp only
    rw [hans]
    refine ⟨rfl, h1, fun name => (h2 name).trans ?_, withFakes_others (fakeWith_keeps _) owners_nil⟩
    exact and_iff_left List.not_mem_nil
  · have hleast := fallbackFakeTTL_least resp
    rw [find_type.mpr hmem]
    refine ⟨fallbackFakeTTL resp, hleast, ?_⟩
    rw [fakeRecord_eq rfl, fakeWith, if_neg hleast.ne_zero]

section
variable {σ : Type} {env : Env σ} {exchange : Msg → Res Msg} {req resp : Msg} {question : Question}

theorem handleDNSQuery_build (dnsCacheTTL now : Int)
    (h : fakeQuery env exchange req = some (question, resp)) :
    handleDNSQuery env dnsCacheTTL exchange now req =
      buildFakeAddressResponse env dnsCacheTTL exchange req (queryDomain env question) question.qtype
        now question := by
  obtain ⟨hreq, hc, ht, -, -, -⟩ := fakeQuery_eq_some h
  unfold handleDNSQuery
  rw [hreq]
  dsimp only
  rw [if_neg (not_not.mpr hc), if_pos ht]

theorem reply_faked (dnsCacheTTL now : Int) {s : DnsState} (hs : s.WF) {reply : Msg}
    (hlower : ∀ d, env.lower (env.lower d) = env.lower d)
    (hf : fakeQuery env exchange req = some (question, resp))
    (hok : (handleDNSQuery env dnsCacheTTL exchange now req s).1 = .ok reply) :
    ∃ address, Faked question resp reply address ∧
      ∀ rr ∈ reply.answer, rr.hdr.rrtype = question.qtype → rr.data = address ∧
        (lookupFakeDomainByIP rr.ipText now
          (handleDNSQuery env dnsCacheTTL exchange now req s).2).1 =
            .ok (some (queryDomain env question)) := by
  obtain ⟨r, t, -, -, hreply⟩ := handleDNSQuery_fake dnsCacheTTL now hs hf
  obtain ⟨ip, -, hrep⟩ := hreply reply hok
  have hfaked := replies_faked hrep
  refine ⟨_, hfaked, fun rr hrr hq => ⟨hfaked.data hrr hq, ?_⟩⟩
  obtain ⟨hentry, -⟩ := query_entry hs hlower hf hok hrr hq
  have hwf : (handleDNSQuery env dnsCacheTTL exchange now req s).2.WF :=
    dnsStep_wf hs (.query exchange now req)
  have hpos : 0 < fakeIPLifetime dnsCacheTTL (allocTTL question resp) := fakeIPLifetime_pos _
  rw [lookupFake_held hwf hentry, lookup_live hentry]
  exact Int.lt_add_of_pos_right now hpos

end

/-- **The whole reply**: every record of the queried type carries one fake address, which leads back to
the name; and but for the answer section it is the response of upstream. -/
theorem fake_reply {σ : Type} (env : Env σ) (hlower : ∀ d, env.lower (env.lower d) = env.lower d)
    (dnsCacheTTL now : Int) (s : DnsState) (hs : s.Reachable σ) (exchange : Msg → Res Msg)
    (req resp reply : Msg) (question : Question) (hreq : req.question = [question])
    (hclass : question.qclass = classINET)
    (htype : question.qtype = typeA ∨ question.qtype = typeAAAA)
    (hmatch : shouldUseFakeIP env (queryDomain env question) = true)
    (hresp : exchange req = .ok resp) (hrcode : resp.rcode = rcodeSuccess) {s' : DnsState}
    (hok : buildFakeAddressResponse env dnsCacheTTL exchange req (queryDomain env question)
      question.qtype now question s = (.ok reply, s')) :
    ∃ address, Faked question resp reply address ∧
      ∀ rr ∈ reply.answer, rr.hdr.rrtype = question.qtype → rr.data = address ∧
        (lookupFakeDomainByIP rr.ipText now s').1 = .ok (some (queryDomain env question)) := by
  have hf := fakeQuery_of hreq hclass htype hmatch hresp hrcode
  rw [← handleDNSQuery_build dnsCacheTTL now hf] at hok
  have h := reply_faked dnsCacheTTL now hs.wf hlower hf (by rw [hok])
  rw [hok] at h
  exact h

/-- an alias, and two addresses of the name behind it -/
def aliasAnswer : Msg :=
  { ruleQuery with answer :=
    [⟨⟨lit "blocked.example.", 5, classINET, 300⟩, .other (lit "cdn.example.")⟩,
      ⟨⟨lit "cdn.example.", typeA, classINET, 0⟩, .a [192, 0, 2, 7]⟩,
      ⟨⟨lit "cdn.example.", typeA, classINET, 30⟩, .a [192, 0, 2, 8]⟩] }

def aliasReply : Msg :=
  { ruleQuery with answer :=
    [⟨⟨lit "blocked.example.", 5, classINET, 300⟩, .other (lit "cdn.example.")⟩,
      ⟨⟨lit "cdn.example.", typeA, classINET, 60⟩, .a [198, 18, 0, 1]⟩] }

theorem fake_reply_alias :
    aliasReply.answer = withFakes typeA (fakeWith (.a [198, 18, 0, 1])) [] aliasAnswer.answer ∧
    (lookupFakeDomainByIP (lit "198.18.0.1") 0
      (buildFakeAddressResponse (oneRuleEnv {} {}) 0 (fun _ => .ok aliasAnswer) ruleQuery
        (lit "blocked.example") typeA 0 ⟨lit "blocked.example.", typeA, classINET⟩ {}).2).1 =
      .ok (some (lit "blocked.example")) := by
  have hrun : buildFakeAddressResponse (oneRuleEnv {} {}) 0 (fun _ => .ok aliasAnswer) ruleQuery
      (lit "blocked.example") typeA 0 ⟨lit "blocked.example.", typeA, classINET⟩ {} =
      (.ok aliasReply, (buildFakeAddressResponse (oneRuleEnv {} {}) 0 (fun _ => .ok aliasAnswer)
        ruleQuery (lit "blocked.example") typeA 0 ⟨lit "blocked.example.", typeA, classINET⟩ {}).2) :=
    Prod.ext (by decide +kernel) rfl
  have hname : queryDomain (oneRuleEnv {} {}) ⟨lit "blocked.example.", typeA, classINET⟩ =
      lit "blocked.example" := by decide +kernel
  obtain ⟨address, hfaked, hall⟩ := fake_reply (oneRuleEnv {} {}) (fun _ => rfl) 0 0 {}
    (.init ⟨rfl, rfl⟩) (fun _ => .ok aliasAnswer) ruleQuery aliasAnswer aliasReply
    ⟨lit "blocked.example.", typeA, classINET⟩ rfl rfl (.inl rfl) (by decide +kernel) rfl rfl
    (by rw [hname]; exact hrun)
  obtain ⟨hdata, hlook⟩ := hall
    ⟨⟨lit "cdn.example.", typeA, classINET, 60⟩, .a [198, 18, 0, 1]⟩ (by decide +kernel) rfl
  have htext : RR.ipText ⟨⟨lit "cdn.example.", typeA, classINET, 60⟩, .a [198, 18, 0, 1]⟩ =
      lit "198.18.0.1" := by decide +kernel
  obtain rfl : RData.a [198, 18, 0, 1] = address := hdata
  rw [htext, hname] at hlook
  exact ⟨(hfaked.found (by decide +kernel)).1, hlook⟩

end Bill
