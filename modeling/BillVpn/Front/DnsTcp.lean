import BillVpn.Dns.Answer
import BillVpn.Go.Frames

/-!
# DNS over TCP to the VPN's own server

A TCP connection of an app to the DNS server of the VPN ends in `serveLocalDNSTCP`: it reads a query
behind its length, answers it as a query of UDP is answered, and writes the answer behind its
length.  The loop ends at the end of the stream, at an empty message, at a query that cannot be
answered and at a write that fails.

* `handleDNSQueryPacket`    a query in bytes;
* `serveLocalDNSTCP`        the loop, with its five ways to end;
* `answerAll`               queries one after the other, up to the first that fails;
* `serveLoop_run`           **the loop answers the messages of the stream, however they arrive**;
* `dnsTcp_answers`          and the app reads the answers back.
-/

set_option linter.unusedVariables false

namespace Bill
open Go Proc

/-! ## one query -/

/-- `Unpack` and `Pack` of the DNS library -/
structure DnsWire where
  unpack : Bytes → Except String Msg
  pack : Msg → Except String Bytes

/-- what is around one query: the upstream server, the clock, and what other flows have done to the
DNS state since the query before -/
structure QueryAround where
  exchange : Msg → Res Msg
  now : Int
  others : DnsState → DnsState := id

section
variable {σ : Type} (env : Env σ) (dnsCacheTTL : Int) (wire : DnsWire)

def handleDNSQueryPacket (exchange : Msg → Res Msg) (now : Int) (payload : Bytes) :
    Proc DnsState Bytes := do
  let req ← (lift (.ofExcept (wire.unpack payload))).wrap "unpack hijacked dns request"
  let resp ← handleDNSQuery env dnsCacheTTL exchange now req
  (lift (.ofExcept (wire.pack resp))).wrap "pack hijacked dns response"

/-- no message that unpacks is answered without the upstream server -/
theorem handleDNSQueryPacket_asks {exchange : Msg → Res Msg} {payload : Bytes} {req : Msg} {e : String}
    (hunpack : wire.unpack payload = .ok req) (hdown : exchange req = .err e) (now : Int) (s : DnsState) :
    ∃ e', handleDNSQueryPacket env dnsCacheTTL wire exchange now payload s = (.err e', s) := by
  have hquery : ∃ e', handleDNSQuery env dnsCacheTTL exchange now req s = (.err e', s) := by
    have hplain : (lift (exchange req) : Proc DnsState Msg) s = (.err e, s) := congrArg (·, s) hdown
    unfold handleDNSQuery
    rcases req.question with _ | ⟨question, _ | ⟨second, rest⟩⟩
    · exact ⟨e, hplain⟩
    · dsimp only
      split_ifs
      · exact ⟨e, hplain⟩
      · unfold buildFakeAddressResponse
        rw [hdown]
        exact ⟨_, rfl⟩
      · exact ⟨e, hplain⟩
    · exact ⟨e, hplain⟩
  obtain ⟨e', he⟩ := hquery
  refine ⟨e', ?_⟩
  unfold handleDNSQueryPacket
  rw [hunpack]
  show (handleDNSQuery env dnsCacheTTL exchange now req >>= _) s = _
  exact run_bind_err he

/-- the query with the number `k` -/
def answerAt (around : Nat → QueryAround) (k : Nat) (payload : Bytes) : Proc DnsState Bytes := do
  modify (around k).others
  handleDNSQueryPacket env dnsCacheTTL wire (around k).exchange (around k).now payload

end

/-! ## the loop -/

/-- why the loop ends -/
inductive ServeEnd where
  | readLength (err : String)
  | emptyMessage
  | readPayload (err : String)
  | handle (err : String)
  | write (err : String)
deriving DecidableEq, Repr

/-- the server's end of the connection, beside a state `τ` that the answers are made from -/
structure DnsTcpConn (τ : Type) where
  state : τ
  input : Stream := {}
  /-- what was written, one frame for each query -/
  sent : List Bytes := []
  writeFails : Nat → Option String := fun _ => none

section
variable {τ : Type}

def onInput {α : Type} (x : Proc Stream α) : Proc (DnsTcpConn τ) α :=
  zoom (·.input) (fun t c => { c with input := t }) x

def onState {α : Type} (x : Proc τ α) : Proc (DnsTcpConn τ) α :=
  zoom (·.state) (fun t c => { c with state := t }) x

def writeFrame (b : Bytes) : Proc (DnsTcpConn τ) Unit := fun c =>
  match c.writeFails c.sent.length with
  | some e => (.err e, c)
  | none => (.ok (), { c with sent := c.sent ++ [b] })

variable (answer : Nat → Bytes → Proc τ Bytes)

/-- past the payload: the answer and the write -/
def serveQuery (payload : Bytes) : Proc (DnsTcpConn τ) (Option ServeEnd) := do
  let c ← get
  match ← attempt (onState (answer c.sent.length payload)) with
  | .error e => pure (some (.handle e))
  | .ok resp =>
    match ← attempt (writeFrame (frame resp)) with
    | .error e => pure (some (.write e))
    | .ok _ => pure none

/-- past the length -/
def servePayload (msgLen : Nat) : Proc (DnsTcpConn τ) (Option ServeEnd) :=
  if msgLen ≤ 0 then pure (some .emptyMessage)
  else do
    match ← attempt (onInput (readFull msgLen)) with
    | .error e => pure (some (.readPayload e))
    | .ok payload => serveQuery answer payload

def serveTurn : Proc (DnsTcpConn τ) (Option ServeEnd) := do
  match ← attempt (onInput (readFull 2)) with
  | .error e => pure (some (.readLength e))
  | .ok lengthBuf => servePayload answer (u16At lengthBuf 0)

def serveLoop : Nat → Proc (DnsTcpConn τ) (Option ServeEnd)
  | 0 => pure none
  | k + 1 => do
    match ← serveTurn answer with
    | some e => pure (some e)
    | none => serveLoop k

/-- every turn takes bytes from the stream, so there are no more turns than bytes -/
def serveLocalDNSTCP : Proc (DnsTcpConn τ) (Option ServeEnd) := do
  let c ← get
  serveLoop answer (c.input.rest.length + 1)

/-! ## what it does -/

/-- the answers to queries one after the other, the first with the number `k` -/
def answerAll : Nat → List Bytes → Proc τ (List Bytes)
  | _, [] => pure []
  | k, q :: qs => do
    match ← attempt (answer k q) with
    | .error _ => pure []
    | .ok resp => do
      let resps ← answerAll (k + 1) qs
      pure (resp :: resps)

/-- the queries of a byte string: its messages, up to an empty one -/
def queriesOf (d : Bytes) : List Bytes := (unframe d).1.takeWhile (· ≠ [])

theorem queriesOf_none {d : Bytes} (h : splitFrame d = none) : queriesOf d = [] := by
  unfold queriesOf
  rw [unframe_none h]
  rfl

theorem queriesOf_empty {d d' : Bytes} (h : splitFrame d = some ([], d')) : queriesOf d = [] := by
  unfold queriesOf
  rw [unframe_some h]
  rfl

theorem queriesOf_cons {d m d' : Bytes} (h : splitFrame d = some (m, d')) (hm : m ≠ []) :
    queriesOf d = m :: queriesOf d' := by
  unfold queriesOf
  rw [unframe_some h, List.takeWhile_cons_of_pos (by simpa using hm)]

theorem u16At_take (d : Bytes) (h : 2 ≤ d.length) : u16At (d.take 2) 0 = u16At d 0 := by
  have hlen : (d.take 2).length = 2 := by
    rw [List.length_take]
    omega
  have happ : u16At (d.take 2 ++ d.drop 2) 0 = u16At (d.take 2) 0 := u16At_append (by omega) _
  rw [List.take_append_drop] at happ
  exact happ.symm

theorem onInput_run {α : Type} {x : Proc Stream α} {c : DnsTcpConn τ} {r : Res α} {t : Stream}
    (h : x c.input = (r, t)) : onInput x c = (r, { c with input := t }) := zoom_eq h

theorem serveTurn_length {c : DnsTcpConn τ} (h : 2 ≤ c.input.rest.length) :
    ∃ input, input.rest = c.input.rest.drop 2 ∧ serveTurn answer c =
      servePayload answer (u16At c.input.rest 0) { c with input := input } := by
  obtain ⟨input, hread, hrest⟩ := readFull_ok h
  refine ⟨input, hrest, ?_⟩
  unfold serveTurn
  rw [run_bind_ok (attempt_ok (onInput_run hread))]
  dsimp only
  rw [u16At_take _ h]

theorem serveTurn_message {c : DnsTcpConn τ} {m d' : Bytes}
    (h : splitFrame c.input.rest = some (m, d')) :
    ∃ input, input.rest = d' ∧
      (m = [] → serveTurn answer c = (.ok (some .emptyMessage), { c with input := input })) ∧
      (m ≠ [] → serveTurn answer c = serveQuery answer m { c with input := input }) := by
  unfold splitFrame at h
  split_ifs at h with hd
  obtain ⟨rfl, rfl⟩ := Prod.mk.inj (Option.some.inj h)
  obtain ⟨i1, hr1, hturn⟩ := serveTurn_length answer hd.1
  by_cases hn : u16At c.input.rest 0 ≤ 0
  · have hn0 : u16At c.input.rest 0 = 0 := Nat.le_zero.mp hn
    refine ⟨i1, by rw [hr1, hn0], fun _ => ?_, fun hm => ?_⟩
    · rw [hturn]
      unfold servePayload
      rw [if_pos hn]
      rfl
    · rw [hn0] at hm
      exact absurd rfl hm
  · have hle : u16At c.input.rest 0 ≤ i1.rest.length := by
      rw [hr1, List.length_drop]
      omega
    obtain ⟨i2, h2, hr2⟩ := readFull_ok hle
    refine ⟨i2, by rw [hr2, hr1, List.drop_drop], fun hm => ?_, fun _ => ?_⟩
    · have hlen := congrArg List.length hm
      rw [List.length_take, List.length_drop, List.length_nil] at hlen
      omega
    · rw [hturn]
      unfold servePayload
      rw [if_neg hn, run_bind_ok (attempt_ok (onInput_run h2)), hr1]

theorem serveTurn_short {c : DnsTcpConn τ} (h : splitFrame c.input.rest = none) :
    ∃ e input, serveTurn answer c = (.ok (some e), { c with input := input }) := by
  unfold splitFrame at h
  split_ifs at h with hd
  by_cases h2 : 2 ≤ c.input.rest.length
  · have hlong : c.input.rest.length < 2 + u16At c.input.rest 0 := by
      by_contra hle
      exact hd ⟨h2, by omega⟩
    obtain ⟨i1, hr1, hturn⟩ := serveTurn_length answer h2
    have hshort : i1.rest.length < u16At c.input.rest 0 := by
      rw [hr1, List.length_drop]
      omega
    obtain ⟨e, i2, he⟩ := readFull_short hshort
    refine ⟨.readPayload e, i2, ?_⟩
    rw [hturn]
    unfold servePayload
    rw [if_neg (by omega), run_bind_ok (attempt_err (onInput_run he))]
    rfl
  · obtain ⟨e, i1, he⟩ := readFull_short (Nat.lt_of_not_le h2)
    refine ⟨.readLength e, i1, ?_⟩
    unfold serveTurn
    rw [run_bind_ok (attempt_err (onInput_run he))]
    rfl

variable {answer}

theorem answerAll_cons_ok {k : Nat} {q resp : Bytes} {qs : List Bytes} {s t : τ}
    (h : answer k q s = (.ok resp, t)) : answerAll answer k (q :: qs) s =
      (answerAll answer (k + 1) qs >>= fun resps => pure (resp :: resps)) t := by
  show (attempt (answer k q) >>= _) s = _
  rw [run_bind_ok (attempt_ok h)]

theorem answerAll_cons_err {k : Nat} {q : Bytes} {qs : List Bytes} {s t : τ} {e : String}
    (h : answer k q s = (.err e, t)) : answerAll answer k (q :: qs) s = (.ok [], t) := by
  show (attempt (answer k q) >>= _) s = _
  rw [run_bind_ok (attempt_err h)]
  rfl

theorem answerAll_cons_panic {k : Nat} {q : Bytes} {qs : List Bytes} {s t : τ}
    (h : answer k q s = (.panic, t)) : answerAll answer k (q :: qs) s = (.panic, t) := by
  show (attempt (answer k q) >>= _) s = _
  rw [run_bind_panic (attempt_panic h)]

theorem serveQuery_ok {c : DnsTcpConn τ} (hw : ∀ i, c.writeFails i = none) {q resp : Bytes} {t : τ}
    (h : answer c.sent.length q c.state = (.ok resp, t)) :
    serveQuery answer q c = (.ok none, { c with state := t, sent := c.sent ++ [frame resp] }) := by
  have hs : onState (answer c.sent.length q) c = (.ok resp, { c with state := t }) := zoom_eq h
  have hwrite : writeFrame (frame resp) { c with state := t }
      = (.ok (), { c with state := t, sent := c.sent ++ [frame resp] }) := by
    unfold writeFrame
    dsimp only
    rw [hw]
  unfold serveQuery
  rw [run_bind_ok (run_get c), run_bind_ok (attempt_ok hs)]
  dsimp only
  rw [run_bind_ok (attempt_ok hwrite)]
  rfl

theorem serveQuery_err {c : DnsTcpConn τ} {q : Bytes} {t : τ} {e : String}
    (h : answer c.sent.length q c.state = (.err e, t)) :
    serveQuery answer q c = (.ok (some (.handle e)), { c with state := t }) := by
  have hs : onState (answer c.sent.length q) c = (.err e, { c with state := t }) := zoom_eq h
  unfold serveQuery
  rw [run_bind_ok (run_get c), run_bind_ok (attempt_err hs)]
  rfl

theorem serveLoop_end {k : Nat} {c c' : DnsTcpConn τ} {e : ServeEnd}
    (h : serveTurn answer c = (.ok (some e), c')) :
    serveLoop answer (k + 1) c = (.ok (some e), c') := by
  show (serveTurn answer >>= _) c = _
  rw [run_bind_ok h]
  rfl

theorem serveLoop_next {k : Nat} {c c' : DnsTcpConn τ} (h : serveTurn answer c = (.ok none, c')) :
    serveLoop answer (k + 1) c = serveLoop answer k c' := by
  show (serveTurn answer >>= _) c = _
  rw [run_bind_ok h]

/-- **The loop answers the messages of the stream, however they arrive**, and then it ends. -/
theorem serveLoop_run {k : Nat} : ∀ {c : DnsTcpConn τ} {resps : List Bytes} {t : τ},
    (∀ i, c.writeFails i = none) → c.input.rest.length < k →
    answerAll answer c.sent.length (queriesOf c.input.rest) c.state = (.ok resps, t) →
    ∃ e c', serveLoop answer k c = (.ok (some e), c') ∧ c'.state = t ∧
      c'.sent = c.sent ++ resps.map frame := by
  induction k with
  | zero => exact fun _ hk => absurd hk (Nat.not_lt_zero _)
  | succ k ih =>
    intro c resps t hw hk h
    cases hs : splitFrame c.input.rest with
    | none =>
      rw [queriesOf_none hs] at h
      cases h
      obtain ⟨e, input, hturn⟩ := serveTurn_short answer hs
      exact ⟨e, _, serveLoop_end hturn, rfl, (List.append_nil _).symm⟩
    | some p =>
      obtain ⟨m, d'⟩ := p
      obtain ⟨input, hrest, hempty, hquery⟩ := serveTurn_message answer hs
      by_cases hm : m = []
      · subst hm
        rw [queriesOf_empty hs] at h
        cases h
        exact ⟨_, _, serveLoop_end (hempty rfl), rfl, (List.append_nil _).symm⟩
      · have hlt := splitFrame_shorter hs
        rw [queriesOf_cons hs hm] at h
        rcases ha : answer c.sent.length m c.state with ⟨r, t1⟩
        cases r with
        | panic =>
          rw [answerAll_cons_panic ha] at h
          cases h
        | err e =>
          rw [answerAll_cons_err ha] at h
          cases h
          have hturn := (hquery hm).trans (serveQuery_err (c := { c with input := input }) ha)
          exact ⟨_, _, serveLoop_end hturn, rfl, (List.append_nil _).symm⟩
        | ok resp =>
          rw [answerAll_cons_ok ha] at h
          obtain ⟨resps', t2, h2, h3⟩ := run_bind_eq_ok.mp h
          cases h3
          have hturn := (hquery hm).trans (serveQuery_ok (c := { c with input := input }) hw ha)
          rw [serveLoop_next hturn]
          have hlen : (c.sent ++ [frame resp]).length = c.sent.length + 1 := by
            rw [List.length_append, List.length_singleton]
          obtain ⟨e, c', hl, hst, hsent⟩ := ih
            (c := { c with input := input, state := t1, sent := c.sent ++ [frame resp] })
            hw (by show input.rest.length < k; rw [hrest]; omega)
            (by show answerAll answer _ (queriesOf input.rest) t1 = _
                rw [hlen, hrest]
                exact h2)
          exact ⟨e, c', hl, hst, by rw [hsent, List.append_assoc]; rfl⟩

theorem serveLocalDNSTCP_run {c : DnsTcpConn τ} {resps : List Bytes} {t : τ}
    (hw : ∀ i, c.writeFails i = none)
    (h : answerAll answer c.sent.length (queriesOf c.input.rest) c.state = (.ok resps, t)) :
    ∃ e c', serveLocalDNSTCP answer c = (.ok (some e), c') ∧ c'.state = t ∧
      c'.sent = c.sent ++ resps.map frame := by
  unfold serveLocalDNSTCP
  rw [run_bind_ok (run_get c)]
  exact serveLoop_run hw (Nat.lt_succ_self _) h

theorem answerAll_snoc (q : Bytes) {qs : List Bytes} : ∀ {k : Nat} {s t : τ} {resps : List Bytes},
    answerAll answer k qs s = (.ok resps, t) → resps.length = qs.length →
    answerAll answer k (qs ++ [q]) s =
      (answerAll answer (k + qs.length) [q] >>= fun more => pure (resps ++ more)) t := by
  induction qs with
  | nil =>
    intro k s t resps h hlen
    cases h
    show answerAll answer k [q] s = (answerAll answer k [q] >>= fun more => pure more) s
    rw [run_bind]
    rcases answerAll answer k [q] s with ⟨r, s1⟩
    cases r <;> rfl
  | cons q0 qs ih =>
    intro k s t resps h hlen
    rcases ha : answer k q0 s with ⟨r, s1⟩
    cases r with
    | panic =>
      rw [answerAll_cons_panic ha] at h
      cases h
    | err e =>
      rw [answerAll_cons_err ha] at h
      cases h
      cases hlen
    | ok resp =>
      rw [answerAll_cons_ok ha] at h
      obtain ⟨resps', t1, h1, h2⟩ := run_bind_eq_ok.mp h
      cases h2
      have hk : k + (q0 :: qs).length = k + 1 + qs.length := by
        rw [List.length_cons]
        omega
      rw [List.cons_append, answerAll_cons_ok ha, run_bind, ih h1 (Nat.succ.inj hlen), hk,
        run_bind, run_bind]
      rcases answerAll answer (k + 1 + qs.length) [q] t with ⟨r, t2⟩
      cases r <;> rfl

end

/-- **An app reads the answers to its queries**: for every way in which the bytes arrive, the server
ends, has answered the messages up to the first empty one or the first that fails, in order and each
once, and what it wrote is the answers behind their lengths. -/
theorem dnsTcp_answers {σ : Type} (env : Env σ) (dnsCacheTTL : Int) (wire : DnsWire)
    (around : Nat → QueryAround) (c : DnsTcpConn DnsState) (hw : ∀ i, c.writeFails i = none)
    (hsent : c.sent = []) (resps : List Bytes) (s : DnsState)
    (h : answerAll (answerAt env dnsCacheTTL wire around) 0 (queriesOf c.input.rest) c.state
      = (.ok resps, s)) :
    ∃ e c', serveLocalDNSTCP (answerAt env dnsCacheTTL wire around) c = (.ok (some e), c') ∧
      c'.state = s ∧ c'.sent.flatten = frames resps ∧
      ((∀ r ∈ resps, r.length < 65536) → unframe c'.sent.flatten = (resps, [])) := by
  have hrun : answerAll (answerAt env dnsCacheTTL wire around) c.sent.length
      (queriesOf c.input.rest) c.state = (.ok resps, s) := by
    rw [hsent]
    exact h
  obtain ⟨e, c', hserve, hst, hs⟩ := serveLocalDNSTCP_run hw hrun
  have hflat : c'.sent.flatten = frames resps := by
    rw [hs, hsent, List.nil_append]
    exact (List.flatMap_def ..).symm
  refine ⟨e, c', hserve, hst, hflat, fun hlen => ?_⟩
  rw [hflat, ← List.append_nil (frames resps)]
  exact unframe_frames hlen rfl

/-- a codec that only knows how long a message is, and refuses one without the twelve bytes of a header -/
def lengthWire : DnsWire where
  unpack b :=
    if b.length < 12 then .error "bad header" else .ok { question := [], hdr := { id := b.length } }
  pack m := .ok (List.replicate m.hdr.id 1)

/-- an upstream server that sends the query back -/
def echoed : QueryAround := { exchange := .ok, now := 0 }

/-- two queries of twelve and thirteen bytes in three pieces, and an empty one -/
theorem dnsTcp_answers_pieces :
    ∃ e c', serveLocalDNSTCP (answerAt (oneRuleEnv {} {}) 0 lengthWire fun _ => echoed)
        { state := {}, input := { segs := [[0], 12 :: List.replicate 12 5 ++ [0, 13, 6],
          List.replicate 12 6 ++ [0, 0, 9]] } }
        = (.ok (some e), c') ∧
      unframe c'.sent.flatten = ([List.replicate 12 1, List.replicate 13 1], []) := by
  have hall : ∀ s, answerAll (answerAt (oneRuleEnv {} {}) 0 lengthWire fun _ => echoed) 0
      [List.replicate 12 5, List.replicate 13 6] s
      = (.ok [List.replicate 12 1, List.replicate 13 1], s) := fun s => rfl
  have hq : queriesOf (0 :: 12 :: List.replicate 12 5 ++ 0 :: 13 :: List.replicate 13 6 ++ [0, 0, 9])
      = [List.replicate 12 5, List.replicate 13 6] := by decide
  obtain ⟨e, c', hc, -, -, hread⟩ := dnsTcp_answers (oneRuleEnv {} {}) 0 lengthWire (fun _ => echoed)
    { state := {}, input := { segs := [[0], 12 :: List.replicate 12 5 ++ [0, 13, 6],
      List.replicate 12 6 ++ [0, 0, 9]] } } (fun i => rfl) rfl
    [List.replicate 12 1, List.replicate 13 1] {} (hq ▸ hall {})
  exact ⟨e, c', hc, hread (by decide)⟩

end Bill
