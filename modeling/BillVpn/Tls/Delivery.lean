import BillVpn.Tls.PolicyConn

/-!
# Delivery: the bridge loses, repeats and reorders nothing

The state of a `policyConn` after a sequence of `Write`s, as a function of the client's stream
alone.

* `decided`, `bridge`        whether the stream is enough to tell what it is, and what has gone
                             upstream if it is;
* `Abs`                      the connection holds what `decided` and `bridge` say;
* `write_abs`, `writes_abs`  a `Write`, and a sequence of them, keep `Abs`, unless a first record
                             that is no ClientHello comes with bytes behind it in one `Write`;
* `write_duplicates`         in that case the bytes behind it go out twice.
-/

set_option linter.unusedVariables false

namespace Bill
open Go Res Proc Conn

section
variable {env : TlsEnv} {plan : DialPlan}

/-! ## what has gone upstream, by the stream alone -/

/-- the stream so far is enough to tell what it is -/
def decided (plan : DialPlan) (s : Bytes) : Bool :=
  s ≠ [] ∧ (plan.policy.mode = .raw ∨ 5 ≤ s.length ∧ (isTLS s = true → recordLen s ≤ s.length))

/-- the bytes upstream once the stream is decided: in mode `tls-rf` the first record of an
accepted ClientHello goes out in its fragmented form -/
def bridge (plan : DialPlan) (s : Bytes) : Bytes :=
  if plan.policy.mode = .tlsrf ∧ isTLS s then
    match parseClientHello (s.take (recordLen s)) with
    | .ok h => carried (plan.policy.oobEx = .true)
        (recordSends plan.policy (s.take (recordLen s)) h) ++ s.drop (recordLen s)
    | _ => s
  else s

theorem decided_iff {s : Bytes} : decided plan s = true ↔
    s ≠ [] ∧ (plan.policy.mode = .raw ∨ 5 ≤ s.length ∧ (isTLS s = true → recordLen s ≤ s.length)) := by
  unfold decided
  rw [decide_eq_true_eq]

theorem decided_append {s : Bytes} (h : decided plan s = true) (b : Bytes) :
    decided plan (s ++ b) = true := by
  rw [decided_iff] at h ⊢
  obtain ⟨hne, hs⟩ := h
  refine ⟨by simp [hne], ?_⟩
  rcases hs with hraw | ⟨h5, ht⟩
  · exact Or.inl hraw
  · rw [isTLS_append h5, recordLen_append h5, List.length_append]
    exact Or.inr ⟨by omega, fun htls => by have := ht htls; omega⟩

theorem bridge_append {s : Bytes} (h : decided plan s = true) (b : Bytes) :
    bridge plan (s ++ b) = bridge plan s ++ b := by
  obtain ⟨hne, hs⟩ := decided_iff.mp h
  unfold bridge
  by_cases hm : plan.policy.mode = .tlsrf
  · have hraw : plan.policy.mode ≠ .raw := by rw [hm]; decide
    obtain ⟨h5, ht⟩ := hs.resolve_left hraw
    rw [isTLS_append h5, recordLen_append h5]
    by_cases htls : isTLS s = true
    · have hle := ht htls
      rw [if_pos ⟨hm, htls⟩, if_pos ⟨hm, htls⟩, List.take_append_of_le_length hle,
        List.drop_append_of_le_length hle]
      cases parseClientHello (s.take (recordLen s)) with
      | ok h => exact (List.append_assoc _ _ _).symm
      | err e => rfl
      | panic => rfl
    · rw [if_neg (fun hc => htls hc.2), if_neg (fun hc => htls hc.2)]
  · rw [if_neg (fun hc => hm hc.1), if_neg (fun hc => hm hc.1)]

/-- `out` carries the client's stream `s`: as it is, or with its first record re-fragmented -/
def Carries (plan : DialPlan) (s out : Bytes) : Prop :=
  out = s ∨ plan.policy.mode = .tlsrf ∧ isTLS s = true ∧ ∃ frag,
    Refragments (plan.policy.modMinorVer = .true) (s.take (recordLen s)) frag ∧
      out = frag ++ s.drop (recordLen s)

theorem Carries.append {s out : Bytes} (hd : decided plan s = true) (h : Carries plan s out)
    (b : Bytes) : Carries plan (s ++ b) (out ++ b) := by
  rcases h with rfl | ⟨hm, htls, frag, hfrag, rfl⟩
  · exact Or.inl rfl
  · have hraw : plan.policy.mode ≠ .raw := by rw [hm]; decide
    obtain ⟨h5, ht⟩ := (decided_iff.mp hd).2.resolve_left hraw
    have hle := ht htls
    refine Or.inr ⟨hm, by rw [isTLS_append h5]; exact htls, frag, ?_, ?_⟩
    · rw [recordLen_append h5, List.take_append_of_le_length hle]
      exact hfrag
    · rw [recordLen_append h5, List.drop_append_of_le_length hle, List.append_assoc]

/-- the client's bytes on the embedded connection -/
def PolicyConn.upstream (plan : DialPlan) (c : PolicyConn) : Bytes :=
  carried (plan.policy.oobEx = .true) c.conn.sent

/-- **The connection holds what the stream `s` says.** -/
structure Abs (plan : DialPlan) (s : Bytes) (c : PolicyConn) : Prop where
  reliable : c.conn.Reliable
  open_ : c.closed = false
  handled : c.handled = decided plan s
  pending : c.pending = if decided plan s then [] else s
  upstream : c.upstream plan = if decided plan s then bridge plan s else []
  carries : decided plan s = true → Carries plan s (bridge plan s)
  fresh : decided plan s = false → c.conn.sent = []

/-- the parser does not accept the record -/
def rejects (record : Bytes) : Bool :=
  match parseClientHello record with
  | .ok _ => false
  | _ => true

theorem rejects_iff {record : Bytes} :
    rejects record = true ↔ ∀ h, parseClientHello record ≠ .ok h := by
  unfold rejects
  cases parseClientHello record <;> simp

/-- in one `Write`, the first record is complete, is no ClientHello, and has bytes behind it -/
def RejectedWithTail (plan : DialPlan) (c : PolicyConn) (b : Bytes) : Prop :=
  c.handled = false ∧ plan.policy.mode ≠ .raw ∧ 5 ≤ (c.pending ++ b).length ∧
    isTLS (c.pending ++ b) = true ∧ recordLen (c.pending ++ b) < (c.pending ++ b).length ∧
    rejects ((c.pending ++ b).take (recordLen (c.pending ++ b))) = true

/-! ## one `Write` -/

theorem Bridged.not_block (h : Bridged plan) : ¬ (plan.blocked = true ∨ plan.policy.mode = .block) := by
  rintro (hb | hm)
  · rw [h.open_] at hb; cases hb
  · rcases h.mode with h | h | h <;> rw [h] at hm <;> cases hm

/-- a connection that has not sent anything and waits -/
structure Waiting (s : Bytes) (c : PolicyConn) : Prop where
  reliable : c.conn.Reliable
  open_ : c.closed = false
  handled : c.handled = false
  pending : c.pending = s
  fresh : c.conn.sent = []

theorem Waiting.abs {s : Bytes} {c : PolicyConn} (h : Waiting s c) (hd : decided plan s = false) :
    Abs plan s c where
  reliable := h.reliable
  open_ := h.open_
  handled := by rw [hd]; exact h.handled
  pending := by rw [hd]; exact h.pending
  upstream := by rw [hd, PolicyConn.upstream, h.fresh]; rfl
  carries := fun ht => by rw [hd] at ht; cases ht
  fresh := fun _ => h.fresh

theorem Waiting.abs_flushed {s : Bytes} {c : PolicyConn} (h : Waiting s c) (hd : decided plan s = true)
    (hb : bridge plan s = s) :
    Abs plan s { c with conn := c.conn.push (.data s), handled := true, pending := [] } where
  reliable := h.reliable.pushAll [.data s]
  open_ := h.open_
  handled := hd.symm
  pending := by rw [hd]; rfl
  upstream := by
    rw [hd, if_pos rfl, hb]
    show carried _ (c.conn.sent ++ [.data s]) = s
    rw [h.fresh, carried_append_data]
    rfl
  carries := fun _ => Or.inl hb
  fresh := fun hf => by rw [hd] at hf; cases hf

theorem flush_attempt {c : PolicyConn} (hc : c.conn.Reliable) (ho : c.closed = false)
    (hp : c.pending ≠ []) :
    (do let r ← attempt flushPendingLocked
        closedIf r
        pure true) c =
      (.ok true, { c with conn := c.conn.push (.data c.pending), handled := true, pending := [] }) := by
  rw [run_bind_ok (attempt_ok (flushPendingLocked_run hc hp))]
  show (Res.ok true, { c with conn := _, handled := true, pending := [], closed := false }) = _
  rw [← ho]

theorem handleRecord_rejected {s : Bytes} {c : PolicyConn} (h : Waiting s c)
    (h5 : 5 ≤ s.length) (hle : recordLen s ≤ s.length) (htail : s.drop (recordLen s) = [])
    (hrej : ∀ hello, parseClientHello (s.take (recordLen s)) ≠ .ok hello) :
    handleRecordLocked env plan (s.take (recordLen s)) (s.drop (recordLen s)) c =
      (.ok (), { c with conn := c.conn.push (.data s), handled := true, pending := [] }) := by
  have hlen : (s.take (recordLen s)).length = recordLen s := by rw [List.length_take]; omega
  have hnp : parseClientHello (s.take (recordLen s)) ≠ .panic := by
    rw [Ne, parseClientHello_panics, hlen, recordLen]; omega
  have hflush : handleTLSLocked env plan (s.take (recordLen s)) c =
      (.ok (), { c with conn := c.conn.push (.data s), handled := true, pending := [] }) := by
    unfold handleTLSLocked
    cases hp : parseClientHello (s.take (recordLen s)) with
    | panic => exact absurd hp hnp
    | ok hello => exact absurd hp (hrej hello)
    | err e =>
      have hne : c.pending ≠ [] := by rw [h.pending]; rintro rfl; simp at h5
      have := flushPendingLocked_run h.reliable hne
      rw [h.pending] at this
      exact this
  unfold handleRecordLocked
  rw [run_bind_ok (attempt_ok hflush), htail]
  rfl

/-- the first record is a ClientHello: no value, a closed connection, or its sends and the tail -/
theorem handleRecord_accepted (hplan : Bridged plan) (hraw : plan.policy.mode ≠ .raw) {s : Bytes}
    {c : PolicyConn} (h : Waiting s c) (hle : recordLen s ≤ s.length) {hello : Hello}
    (hp : parseClientHello (s.take (recordLen s)) = .ok hello)
    (hd : CompleteRecord (s.take (recordLen s))) {c' : PolicyConn}
    (hrun : handleRecordLocked env plan (s.take (recordLen s)) (s.drop (recordLen s)) c = (.ok (), c'))
    (hopen : c'.closed = false) :
    c'.conn.Reliable ∧ c'.handled = true ∧ c'.pending = [] ∧
      c'.upstream plan = carried (plan.policy.oobEx = .true)
        (recordSends plan.policy (s.take (recordLen s)) hello) ++ s.drop (recordLen s) ∧
      SentAs plan (s.take (recordLen s)) hello := by
  have hTLS : handleTLSLocked env plan (s.take (recordLen s)) c =
      decideLocked env plan (s.take (recordLen s)) hello c := by
    unfold handleTLSLocked; rw [hp]
  unfold handleRecordLocked at hrun
  have hcases : (∀ u, (decideLocked env plan (s.take (recordLen s)) hello c).1 ≠ .ok u) ∨ _ :=
    decideLocked_cases hplan hraw hp hd h.reliable
  rcases hcases with hno | ⟨hyes, hsent⟩
  · -- a panic ends the run, an error closes the connection
    rcases hr : decideLocked env plan (s.take (recordLen s)) hello c with ⟨r, c1⟩
    rw [hr] at hno hTLS
    cases r with
    | panic =>
      rw [run_bind_panic (attempt_panic hTLS)] at hrun
      cases hrun
    | err e =>
      rw [run_bind_ok (attempt_err hTLS)] at hrun
      cases hrun
      cases hopen
    | ok u => exact absurd rfl (hno u)
  · rw [hyes] at hTLS
    rw [run_bind_ok (attempt_ok hTLS)] at hrun
    dsimp only at hrun
    rw [run_bind_ok (run_modify _ _)] at hrun
    unfold forwardTail at hrun
    by_cases ht : s.drop (recordLen s) = []
    · rw [if_pos ht] at hrun
      cases hrun
      refine ⟨h.reliable.pushAll _, rfl, rfl, ?_, hsent⟩
      show carried _ (c.conn.pushAll _).sent = _
      rw [pushAll_sent, h.fresh, List.nil_append, ht, List.append_nil]
    · rw [if_neg ht, run_bind_ok (attempt_ok (onConn_sends (Sends.send _) (h.reliable.pushAll _)))] at hrun
      cases hrun
      refine ⟨(h.reliable.pushAll _).pushAll [_], rfl, rfl, ?_, hsent⟩
      show carried _ ((c.conn.pushAll _).pushAll [_]).sent = _
      rw [pushAll_sent, pushAll_sent, h.fresh, List.nil_append, carried_append_data]

theorem carried_recordSends_direct {p : Policy} (hm : p.mode ≠ .tlsrf) (oobex : Bool) (record : Bytes)
    (h : Hello) : carried oobex (recordSends p record h) = record := by
  unfold recordSends
  rw [if_neg hm]
  exact carried_append_data oobex [] record

/-- what `bridge` says of a stream with an accepted first record -/
theorem bridge_accepted {s : Bytes} (htls : isTLS s = true) {hello : Hello}
    (hp : parseClientHello (s.take (recordLen s)) = .ok hello)
    (hsent : SentAs plan (s.take (recordLen s)) hello) :
    bridge plan s = carried (plan.policy.oobEx = .true)
        (recordSends plan.policy (s.take (recordLen s)) hello) ++ s.drop (recordLen s) ∧
      Carries plan s (bridge plan s) := by
  unfold bridge
  by_cases hm : plan.policy.mode = .tlsrf
  · rw [if_pos ⟨hm, htls⟩, hp]
    exact ⟨rfl, Or.inr ⟨hm, htls, _, hsent hm, rfl⟩⟩
  · rw [if_neg fun hc => hm hc.1, carried_recordSends_direct hm, List.take_append_drop]
    exact ⟨rfl, Or.inl rfl⟩

theorem tryHandle_abs (hplan : Bridged plan) {s : Bytes} {c c' : PolicyConn} {done : Bool}
    (h : Waiting s c)
    (hclean : plan.policy.mode ≠ .raw → 5 ≤ s.length → isTLS s = true → recordLen s < s.length →
      ∃ hello, parseClientHello (s.take (recordLen s)) = .ok hello)
    (hrun : tryHandlePendingLocked env plan c = (.ok done, c')) (hopen : c'.closed = false) :
    Abs plan s c' := by
  unfold tryHandlePendingLocked at hrun
  rw [run_bind_ok (run_get c), h.pending] at hrun
  by_cases hs : s = []
  · rw [if_pos hs] at hrun
    cases hrun
    exact h.abs (by rw [hs]; rfl)
  rw [if_neg hs, if_neg hplan.not_block] at hrun
  have hne : c.pending ≠ [] := by rw [h.pending]; exact hs
  by_cases hraw : plan.policy.mode = .raw
  · rw [if_pos hraw, flush_attempt h.reliable h.open_ hne, h.pending] at hrun
    cases hrun
    refine h.abs_flushed (decided_iff.mpr ⟨hs, Or.inl hraw⟩) ?_
    unfold bridge
    rw [if_neg fun hc => by rw [hraw] at hc; cases hc.1]
  rw [if_neg hraw] at hrun
  by_cases h5 : s.length < 5
  · rw [if_pos h5] at hrun
    cases hrun
    refine h.abs (Bool.eq_false_iff.mpr fun hd => ?_)
    have := (decided_iff.mp hd).2.resolve_left hraw
    omega
  rw [if_neg h5] at hrun
  by_cases htls : isTLS s = true
  · rw [if_pos htls] at hrun
    by_cases hshort : s.length < recordLen s
    · rw [if_pos hshort] at hrun
      cases hrun
      refine h.abs (Bool.eq_false_iff.mpr fun hd => ?_)
      have := ((decided_iff.mp hd).2.resolve_left hraw).2 htls
      omega
    rw [if_neg hshort] at hrun
    have hle : recordLen s ≤ s.length := by omega
    have hd : decided plan s = true := decided_iff.mpr ⟨hs, Or.inr ⟨by omega, fun _ => hle⟩⟩
    by_cases hacc : ∃ hello, parseClientHello (s.take (recordLen s)) = .ok hello
    · obtain ⟨hello, hp⟩ := hacc
      rcases hr : handleRecordLocked env plan (s.take (recordLen s)) (s.drop (recordLen s)) c with
        ⟨r, c1⟩
      rw [run_bind, hr] at hrun
      cases r with
      | panic => cases hrun
      | err e => cases hrun
      | ok u =>
        cases hrun
        obtain ⟨hrel, hh, hpend, hup, hsent⟩ := handleRecord_accepted hplan hraw h hle hp
          (completeRecord_take (by omega) hle) hr hopen
        obtain ⟨hbr, hcarr⟩ := bridge_accepted htls hp hsent
        refine ⟨hrel, hopen, by rw [hh, hd], by rw [hpend, hd]; rfl, ?_, fun _ => hcarr, fun hf => ?_⟩
        · rw [hup, hd, if_pos rfl, hbr]
        · rw [hd] at hf; cases hf
    · have hrej : ∀ hello, parseClientHello (s.take (recordLen s)) ≠ .ok hello := by
        simpa using hacc
      have htail : s.drop (recordLen s) = [] := by
        rw [List.drop_eq_nil_iff]
        by_contra hlt
        exact hacc (hclean hraw (by omega) htls (by omega))
      rw [run_bind_ok (handleRecord_rejected h (by omega) hle htail hrej)] at hrun
      cases hrun
      refine h.abs_flushed hd ?_
      unfold bridge
      split_ifs
      · cases hp : parseClientHello (s.take (recordLen s)) with
        | ok hello => exact absurd hp (hrej hello)
        | err e => rfl
        | panic => rfl
      · rfl
  · rw [if_neg htls, run_bind_ok (run_modify _ _)] at hrun
    rw [flush_attempt (c := { c with handled := true }) h.reliable h.open_ hne] at hrun
    rw [← h.pending]
    cases hrun
    rw [h.pending]
    refine h.abs_flushed (decided_iff.mpr ⟨hs, Or.inr ⟨by omega, fun ht => absurd ht htls⟩⟩) ?_
    unfold bridge
    rw [if_neg fun hc => htls hc.2]

theorem tryHandle_noErr : NoErr (tryHandlePendingLocked env plan) := by
  have hflush : NoErr (do let r ← attempt flushPendingLocked
                          closedIf r
                          pure true) :=
    (NoErr.attempt _).bind fun _ => (NoErr.modify _).bind fun _ => NoErr.pure _
  have htail : ∀ tail, NoErr (forwardTail tail) := fun tail =>
    NoErr.ite (NoErr.pure _) ((NoErr.attempt _).bind fun r => by
      cases r with
      | error e => exact NoErr.modify _
      | ok u => exact NoErr.pure _)
  have hrecord : ∀ record tail, NoErr (handleRecordLocked env plan record tail) := fun record tail =>
    (NoErr.attempt _).bind fun r => by
      cases r with
      | error e => exact NoErr.modify _
      | ok u => exact (NoErr.modify _).bind fun _ => htail tail
  refine NoErr.get.bind fun c => NoErr.ite (NoErr.pure _) (NoErr.ite ?_ (NoErr.ite hflush ?_))
  · exact (NoErr.modify _).bind fun _ => NoErr.bind (fun c e => by simp [onConn, zoom, Conn.close])
      fun _ => NoErr.pure _
  · refine NoErr.ite (NoErr.pure _) (NoErr.ite (NoErr.ite (NoErr.pure _) ?_) ?_)
    · exact (hrecord _ _).bind fun _ => NoErr.pure _
    · exact (NoErr.modify _).bind fun _ => hflush

theorem write_closed {c : PolicyConn} (h : c.closed = true) (b : Bytes) :
    PolicyConn.write env plan b c = (.err "EOF", c) := by
  unfold PolicyConn.write
  rw [run_bind_ok (run_get c), if_pos h]
  rfl

/-- **One `Write`** moves the connection from a stream to the longer one. -/
theorem write_abs (hplan : Bridged plan) {s b : Bytes} {c c' : PolicyConn}
    {r : Res Nat} (h : Abs plan s c) (hclean : ¬ RejectedWithTail plan c b)
    (hrun : PolicyConn.write env plan b c = (r, c')) (hr : r ≠ .panic) (hopen : c'.closed = false) :
    Abs plan (s ++ b) c' := by
  unfold PolicyConn.write at hrun
  rw [run_bind_ok (run_get c), if_neg (by rw [h.open_]; simp)] at hrun
  by_cases hd : decided plan s = true
  · -- past the decision: one more plain write
    have hh : c.handled = true := by rw [h.handled, hd]
    have hd' := decided_append hd b
    rw [if_pos hh, run_bind_ok (onConn_sends (Sends.send _) h.reliable)] at hrun
    cases hrun
    refine ⟨h.reliable.pushAll _, h.open_, by rw [hd']; exact hh, ?_, ?_, fun _ => ?_, fun hf => ?_⟩
    · rw [hd', if_pos rfl]
      have := h.pending
      rwa [hd] at this
    · rw [hd', if_pos rfl, bridge_append hd]
      show carried _ (c.conn.pushAll [.data b]).sent = _
      have hup := h.upstream
      rw [hd, if_pos rfl, PolicyConn.upstream] at hup
      rw [pushAll_sent, carried_append_data, hup]
    · rw [bridge_append hd]
      exact (h.carries hd).append hd b
    · rw [hd'] at hf; cases hf
  · have hd' : decided plan s = false := by simpa using hd
    have hh : c.handled = false := by rw [h.handled, hd']
    have hpend : c.pending = s := by rw [h.pending, hd']; rfl
    rw [if_neg (by rw [hh]; simp), run_bind_ok (run_modify _ _)] at hrun
    have hw : Waiting (s ++ b) { c with pending := c.pending ++ b } :=
      ⟨h.reliable, h.open_, hh, by rw [hpend], h.fresh hd'⟩
    rcases ht : tryHandlePendingLocked env plan { c with pending := c.pending ++ b } with ⟨t, c1⟩
    rw [run_bind, ht] at hrun
    cases t with
    | panic => cases hrun; exact absurd rfl hr
    | err e => exact absurd (congrArg Prod.fst ht) (tryHandle_noErr _ e)
    | ok done =>
      cases hrun
      refine tryHandle_abs hplan hw (fun hraw h5 htls hlt => ?_) ht hopen
      by_contra hno
      refine hclean ⟨hh, hraw, ?_⟩
      rw [hpend]
      exact ⟨h5, htls, hlt, rejects_iff.mpr (by simpa using hno)⟩

/-! ## a sequence of `Write`s -/

/-- no `Write` of the sequence brings a first record that is no ClientHello and more behind it -/
def Clean (env : TlsEnv) (plan : DialPlan) : List Bytes → PolicyConn → Prop
  | [], _ => True
  | b :: bs, c => ¬ RejectedWithTail plan c b ∧ Clean env plan bs (PolicyConn.write env plan b c).2

instance (c : PolicyConn) (b : Bytes) : Decidable (RejectedWithTail plan c b) := by
  unfold RejectedWithTail; infer_instance

instance Clean.decidable : (bs : List Bytes) → (c : PolicyConn) → Decidable (Clean env plan bs c)
  | [], _ => isTrue trivial
  | b :: bs, c =>
    have := Clean.decidable bs (PolicyConn.write env plan b c).2
    inferInstanceAs (Decidable (_ ∧ _))

theorem writes_cons {b : Bytes} {bs : List Bytes} {c c' : PolicyConn}
    (hrun : PolicyConn.writes env plan (b :: bs) c = (.ok (), c')) :
    ∃ r c1, PolicyConn.write env plan b c = (r, c1) ∧ r ≠ .panic ∧
      PolicyConn.writes env plan bs c1 = (.ok (), c') := by
  rw [PolicyConn.writes, run_bind] at hrun
  rcases hr : PolicyConn.write env plan b c with ⟨r, c1⟩
  refine ⟨r, c1, rfl, ?_⟩
  cases r with
  | panic => rw [attempt_panic hr] at hrun; cases hrun
  | err e => rw [attempt_err hr] at hrun; exact ⟨by simp, hrun⟩
  | ok n => rw [attempt_ok hr] at hrun; exact ⟨by simp, hrun⟩

theorem writes_closed {bs : List Bytes} {c c' : PolicyConn}
    (hrun : PolicyConn.writes env plan bs c = (.ok (), c')) (h : c.closed = true) :
    c'.closed = true := by
  induction bs generalizing c with
  | nil => cases hrun; exact h
  | cons b bs ih =>
    obtain ⟨r, c1, hw, -, hrest⟩ := writes_cons hrun
    rw [write_closed h] at hw
    cases hw
    exact ih hrest h

/-- **A sequence of `Write`s** leaves the connection as the whole stream says. -/
theorem writes_abs (hplan : Bridged plan) {s : Bytes} {bs : List Bytes} {c c' : PolicyConn}
    (h : Abs plan s c) (hclean : Clean env plan bs c)
    (hrun : PolicyConn.writes env plan bs c = (.ok (), c')) (hopen : c'.closed = false) :
    Abs plan (s ++ bs.flatten) c' := by
  induction bs generalizing s c with
  | nil =>
    cases hrun
    rwa [List.flatten_nil, List.append_nil]
  | cons b bs ih =>
    obtain ⟨r, c1, hw, hr, hrest⟩ := writes_cons hrun
    have hopen1 : c1.closed = false := by
      by_contra hc1
      rw [writes_closed hrest (by simpa using hc1)] at hopen
      cases hopen
    have habs := write_abs hplan h hclean.1 hw hr hopen1
    have hclean' : Clean env plan bs c1 := by
      have := hclean.2
      rwa [hw] at this
    rw [List.flatten_cons, ← List.append_assoc]
    exact ih habs hclean' hrest

theorem abs_fresh {u : Upstream} (hu : u.Reliable) (hs : u.sent = []) : Abs plan [] { conn := u } where
  reliable := hu
  open_ := rfl
  handled := rfl
  pending := rfl
  upstream := by show carried _ u.sent = []; rw [hs]; rfl
  carries := fun h => by cases h
  fresh := fun _ => hs

theorem Abs.delivered {s : Bytes} {c : PolicyConn} (h : Abs plan s c) :
    Carries plan s (c.upstream plan ++ c.pending) := by
  rw [h.upstream, h.pending]
  by_cases hd : decided plan s = true
  · rw [if_pos hd, if_pos hd, List.append_nil]
    exact h.carries hd
  · rw [if_neg hd, if_neg hd]
    exact Or.inl rfl

theorem Abs.unique {s : Bytes} {c c' : PolicyConn} (h : Abs plan s c) (h' : Abs plan s c') :
    c'.upstream plan = c.upstream plan ∧ c'.pending = c.pending ∧ c'.handled = c.handled ∧
      c'.closed = c.closed :=
  ⟨by rw [h.upstream, h'.upstream], by rw [h.pending, h'.pending], by rw [h.handled, h'.handled],
    by rw [h.open_, h'.open_]⟩

/-- **Exactly once, however the stream is cut.**  Over a connection that never fails, a sequence of
`Write`s that leaves the bridge open has sent the client's stream, up to what is pending and up
to the re-fragmentation of the first record; any other way to cut the same stream leaves the
same state.  Excluded is a `Write` that completes a first record which is no ClientHello and
brings more bytes behind it. -/
theorem writes_deliver (env : TlsEnv) (plan : DialPlan) (hplan : Bridged plan) (u : Upstream)
    (hu : u.Reliable) (hs : u.sent = []) (ws : List Bytes) (c : PolicyConn)
    (hrun : PolicyConn.writes env plan ws { conn := u } = (.ok (), c)) (hopen : c.closed = false)
    (hclean : Clean env plan ws { conn := u }) :
    Carries plan ws.flatten (c.upstream plan ++ c.pending) ∧
    ∀ (ws' : List Bytes) (c' : PolicyConn),
      PolicyConn.writes env plan ws' { conn := u } = (.ok (), c') → c'.closed = false →
      Clean env plan ws' { conn := u } → ws'.flatten = ws.flatten →
      c'.upstream plan = c.upstream plan ∧ c'.pending = c.pending ∧ c'.handled = c.handled ∧
        c'.closed = c.closed := by
  have habs := writes_abs hplan (abs_fresh hu hs) hclean hrun hopen
  refine ⟨habs.delivered, fun ws' c' hrun' hopen' hclean' hflat => ?_⟩
  have habs' := writes_abs hplan (abs_fresh hu hs) hclean' hrun' hopen'
  rw [hflat] at habs'
  exact habs.unique habs'

/-- In the excluded case the bytes behind the record go out twice. -/
theorem write_duplicates (hplan : Bridged plan) {s b : Bytes} {c : PolicyConn} (h : Abs plan s c)
    (hbad : RejectedWithTail plan c b) :
    ∃ c', PolicyConn.write env plan b c = (.ok b.length, c') ∧ c'.closed = false ∧
      c'.upstream plan = (s ++ b) ++ (s ++ b).drop (recordLen (s ++ b)) := by
  obtain ⟨hh, hraw, h5, htls, hlt, hrej⟩ := hbad
  have hd : decided plan s = false := by rw [← h.handled]; exact hh
  have hpend : c.pending = s := by rw [h.pending, hd]; rfl
  rw [hpend] at h5 htls hlt hrej
  have hne : s ++ b ≠ [] := by rintro he; rw [he] at h5; simp at h5
  have hlen : ((s ++ b).take (recordLen (s ++ b))).length = recordLen (s ++ b) := by
    rw [List.length_take]; omega
  have hflush := flushPendingLocked_run (c := { c with pending := s ++ b }) h.reliable hne
  have hTLS : handleTLSLocked env plan ((s ++ b).take (recordLen (s ++ b))) { c with pending := s ++ b } =
      (.ok (), { c with conn := c.conn.push (.data (s ++ b)), handled := true, pending := [] }) := by
    unfold handleTLSLocked
    cases hp : parseClientHello ((s ++ b).take (recordLen (s ++ b))) with
    | panic => rw [parseClientHello_panics, hlen, recordLen] at hp; omega
    | ok hello => exact absurd hp (rejects_iff.mp hrej hello)
    | err e => exact hflush
  have htail : (s ++ b).drop (recordLen (s ++ b)) ≠ [] := by
    rw [Ne, List.drop_eq_nil_iff]; omega
  -- the state after the flush, and after the tail
  obtain ⟨c1, hc1⟩ : ∃ c1 : PolicyConn, c1 =
    { c with conn := c.conn.push (.data (s ++ b)), handled := true, pending := [] } := ⟨_, rfl⟩
  have hrel : c1.conn.Reliable := by rw [hc1]; exact h.reliable.pushAll [_]
  have hrecord : handleRecordLocked env plan ((s ++ b).take (recordLen (s ++ b)))
      ((s ++ b).drop (recordLen (s ++ b))) { c with pending := s ++ b } =
      (.ok (), { c1 with conn := c1.conn.push (.data ((s ++ b).drop (recordLen (s ++ b)))) }) := by
    have hmod : (⟨c1.conn, true, c1.closed, []⟩ : PolicyConn) = c1 := by rw [hc1]
    unfold handleRecordLocked forwardTail
    rw [run_bind_ok (attempt_ok hTLS), ← hc1]
    dsimp only
    rw [run_bind_ok (run_modify _ _), if_neg htail, hmod,
      run_bind_ok (attempt_ok (onConn_sends (Sends.send _) hrel))]
    rfl
  have htry : tryHandlePendingLocked env plan { c with pending := s ++ b } =
      (.ok true, { c1 with conn := c1.conn.push (.data ((s ++ b).drop (recordLen (s ++ b)))) }) := by
    unfold tryHandlePendingLocked
    rw [run_bind_ok (run_get _), if_neg hne, if_neg hplan.not_block, if_neg hraw,
      if_neg (show ¬ (s ++ b).length < 5 by omega), if_pos htls,
      if_neg (show ¬ (s ++ b).length < recordLen (s ++ b) by omega), run_bind_ok hrecord]
    rfl
  refine ⟨{ c1 with conn := c1.conn.push (.data ((s ++ b).drop (recordLen (s ++ b)))) }, ?_, ?_, ?_⟩
  · unfold PolicyConn.write
    rw [run_bind_ok (run_get c), if_neg (by rw [h.open_]; simp), if_neg (by rw [hh]; simp),
      run_bind_ok (run_modify _ _), hpend, run_bind_ok htry]
    rfl
  · rw [hc1]; exact h.open_
  · show carried _ (c1.conn.sent ++ [.data _]) = _
    rw [carried_append_data, hc1]
    show carried _ (c.conn.sent ++ [.data (s ++ b)]) ++ _ = _
    rw [h.fresh hd, carried_append_data]
    rfl

end

/-! ## both cases on concrete streams -/

def directPlan : DialPlan := { policy := { mode := .direct } }

/-- a complete TLS record that is a handshake message, but no ClientHello -/
def strayRecord : Bytes := [0x16, 0x03, 0x01, 0x00, 0x04, 0x02, 0x00, 0x00, 0x00]

/-- a ClientHello cut in the middle of its record and followed by more data -/
theorem writes_deliver_sample :
    Carries fragmentPlan (sampleHello ++ [7, 8])
      ((PolicyConn.writes bareEnv fragmentPlan
          [sampleHello.take 10, sampleHello.drop 10 ++ [7], [8]] {}).2.upstream fragmentPlan ++
        (PolicyConn.writes bareEnv fragmentPlan
          [sampleHello.take 10, sampleHello.drop 10 ++ [7], [8]] {}).2.pending) :=
  (writes_deliver bareEnv fragmentPlan ⟨rfl, Or.inr (Or.inr rfl), fun _ => by decide⟩ {}
    (fun _ => rfl) rfl [sampleHello.take 10, sampleHello.drop 10 ++ [7], [8]] _
    (Prod.ext (by decide +kernel) rfl) (by decide +kernel) (by decide +kernel)).1

/-- The stray record and one byte behind it: written at once, the byte goes upstream twice;
written apart, once. -/
theorem writes_repeat_tail :
    (PolicyConn.writes bareEnv directPlan [strayRecord ++ [0xaa]] {}).1 = .ok () ∧
    (PolicyConn.writes bareEnv directPlan [strayRecord ++ [0xaa]] {}).2.closed = false ∧
    ¬ Carries directPlan (strayRecord ++ [0xaa])
      ((PolicyConn.writes bareEnv directPlan [strayRecord ++ [0xaa]] {}).2.upstream directPlan ++
        (PolicyConn.writes bareEnv directPlan [strayRecord ++ [0xaa]] {}).2.pending) ∧
    (PolicyConn.writes bareEnv directPlan [strayRecord, [0xaa]] {}).2.upstream directPlan ≠
      (PolicyConn.writes bareEnv directPlan [strayRecord ++ [0xaa]] {}).2.upstream directPlan := by
  refine ⟨by decide +kernel, by decide +kernel, ?_, by decide +kernel⟩
  rintro (h | h)
  · revert h; decide +kernel
  · exact absurd h.1 (by decide)

end Bill
