import BillVpn.Config.Decode
import BillVpn.Desync.Probe
import BillVpn.Go.Hoare
import BillVpn.Tls.CallSites

/-!
# The TTL of the fake packet

`getFakeTTL` takes the TTL of the policy, or else what the rules (or, without rules, a subtraction
of one) make of the TTL that the probe found.  Nothing checks the value, and `handleTLS` only logs
an error.

* `getMinimalReachableTTL_outcome`   what the probe can end with under a policy that was accepted;
* `handleTLS_stays`    `handleTLS` calls `desyncSend` with no TTL but the one it was given;
* `handleTLS_usable_iff`   so the TTL is in range exactly if the policy fixes it or the probe and the
                       rules give one that is.
-/

set_option linter.unusedVariables false

namespace Bill
open Go Res Proc Conn

/-! ## the function of the source -/

/-- whether the TTL was cached is only logged -/
def getFakeTTL (calcTTL : Option (Int → Res Int))
    (getMinimalReachableTTL : Bytes → Bool → Int → Int → Int → Res Int)
    (p : Policy) (addr : Bytes) (ipv6 : Bool) : Res Int :=
  if p.fakeTTL = 0 ∨ p.fakeTTL = -1 then do
    let ttl ← (getMinimalReachableTTL addr ipv6 p.maxTTL p.attempts p.singleTimeout).wrap
      "detect minimum reachable TTL"
    if ttl = -1 then .err "reachable TTL not found"
    else match calcTTL with
      | some f => (f ttl).wrap "calculate fake TTL"
      | none => .ok (int64 (ttl - 1))
  else .ok p.fakeTTL

def UsableTTL (ttl : Int) : Prop := 1 ≤ ttl ∧ ttl ≤ 255

instance (ttl : Int) : Decidable (UsableTTL ttl) := inferInstanceAs (Decidable (_ ∧ _))

/-- an error, `-1` or a TTL -/
inductive ProbeOutcome : Res Int → Prop where
  | failed (e : String) : ProbeOutcome (.err e)
  | none : ProbeOutcome (.ok (-1))
  | found {n : Int} (h : UsableTTL n) : ProbeOutcome (.ok n)

def RulesLoaded (calcTTL : Option (Int → Res Int)) : Prop :=
  ∀ f, calcTTL = some f → ∃ conf, loadTTLRules conf = .ok f

/-! ## the probe under an accepted policy -/

section
variable {τ : Type} (dial : Nat → Int → Dialed) (addWithLifetime : Bytes → Int → Int → τ → τ)
  (addr : Bytes) {p : Policy}

theorem detectMinimalReachableTTL_outcome (hp : p.Valid) (s : ProbeState τ) :
    (∃ e, (detectMinimalReachableTTL dial addWithLifetime 8 addr p.maxTTL p.attempts s).1 = .err e) ∨
      ∃ n, (detectMinimalReachableTTL dial addWithLifetime 8 addr p.maxTTL p.attempts s).1 =
        .ok (some n) ∧ ProbeOutcome (.ok n) := by
  rcases hp.maxTTL with hzero | ⟨hlow, hhigh⟩
  · rw [hzero]
    exact .inr ⟨-1, rfl, .none⟩
  have hstart : Halving dial p.attempts.toNat p.maxTTL 1 p.maxTTL (-1) [] := Halving.start (by omega)
  obtain ⟨r, calls, hrun, -, hend⟩ := probeLoop_run 8 s (by omega) hstart (by omega)
  rw [s.dialed_nil] at hrun
  unfold detectMinimalReachableTTL
  cases hend with
  | failed e h => exact .inl ⟨e, by rw [run_bind_err hrun]⟩
  | @ended _ low found h =>
    refine .inr ⟨found, by rw [run_bind_ok hrun]; rfl, ?_⟩
    by_cases hf : found = -1
    · rw [hf]
      exact .none
    · obtain ⟨h1, h2, _⟩ := h.finds.answered hf
      exact .found ⟨h1, by omega⟩

/-- **what the probe can end with**: the cache holds nothing but TTLs that were found -/
theorem getMinimalReachableTTL_outcome {get : Bytes → τ → Option Int × τ} (hp : p.Valid)
    (s : ProbeState τ) (hcache : ∀ c n, s.ttlCache = some c → (get addr c).1 = some n → UsableTTL n) :
    (∃ e, (getMinimalReachableTTL dial get addWithLifetime 8 addr p.maxTTL p.attempts s).1 = .err e) ∨
      ∃ n cached, (getMinimalReachableTTL dial get addWithLifetime 8 addr p.maxTTL p.attempts s).1 =
        .ok (some (n, cached)) ∧ ProbeOutcome (.ok n) := by
  unfold getMinimalReachableTTL
  dsimp only
  cases hl : (s.ttlCache.map (get addr)).bind (·.1) with
  | some n =>
    obtain ⟨looked, hlooked, hn⟩ := Option.bind_eq_some_iff.mp hl
    obtain ⟨c, hc, rfl⟩ := Option.map_eq_some_iff.mp hlooked
    exact .inr ⟨n, true, rfl, .found (hcache c n hc hn)⟩
  | none =>
    rcases detectMinimalReachableTTL_outcome dial addWithLifetime addr hp
      { s with ttlCache := (s.ttlCache.map (get addr)).map (·.2) } with ⟨e, he⟩ | ⟨n, hn, hout⟩
    · exact .inl ⟨e, by dsimp only; rw [run_bind_err (Prod.ext he rfl)]⟩
    · exact .inr ⟨n, false, by dsimp only; rw [run_bind_ok (Prod.ext hn rfl)]; rfl, hout⟩

end

/-! ## the calls of `desyncSend` -/

/-- the TTLs that `desyncSend` was called with are usable, besides those of `old` -/
def CalledUsable (old : List Int) (t : Tunnel) : Prop := ∀ ttl ∈ t.desyncTTLs, ttl ∈ old ∨ UsableTTL ttl

section
variable {old : List Int} {env : TlsEnv} {p : Policy} {target : Bytes}

theorem stays_onDst {α : Type} (x : Proc Upstream α) : Stays (CalledUsable old) (onDst x) :=
  fun t ht => ht

theorem stays_sendTLSAlert (prtVer : Bytes) (desc : UInt8) :
    Stays (CalledUsable old) (sendTLSAlert prtVer desc) := by
  refine .lift_bind fun alert _ => .bind (.attempt ?_) fun _ => .pure ()
  exact fun t ht => ht

theorem stays_dialLate (replyFirst : Bool) : Stays (CalledUsable old) (dialLate p replyFirst target) := by
  refine .ite (fun t ht => ?_) (.pure ())
  unfold dialTimeout
  cases t.dialFails t.dials.length with
  | some e => exact ht
  | none => exact ht

theorem stays_okIf {x : Proc Tunnel Unit} (hx : Stays (CalledUsable old) x) :
    Stays (CalledUsable old) (okIf x) := by
  refine .bind hx.attempt fun r => ?_
  cases r with
  | error e => exact .pure false
  | ok u => exact .pure true

theorem stays_sendByMode (hmode : p.mode = .ttld)
    (httl : ∀ c ttl, idx target 0 = .ok c → tunnelTTL env p target (c == lbracket) = .ok ttl →
      UsableTTL ttl) (record : Bytes)
    (h : Hello) : Stays (CalledUsable old) (sendByMode env p target record h) := by
  unfold sendByMode
  rw [hmode]
  refine .lift_bind fun c hc => .lift_bind fun ttl hv => .bind (fun t ht v hmem => ?_) fun _ =>
    stays_onDst _
  rcases List.mem_append.mp hmem with hmem | hmem
  · exact ht v hmem
  · rw [List.mem_singleton.mp hmem]
    exact .inr (httl c ttl hc hv)

/-- **`handleTLS` calls `desyncSend` with no TTL but the one that `tunnelTTL` gives** -/
theorem handleTLS_stays (hmode : p.mode = .ttld)
    (httl : ∀ c ttl, idx target 0 = .ok c → tunnelTTL env p target (c == lbracket) = .ok ttl →
      UsableTTL ttl) (recordLen : Nat)
    (replyFirst : Bool) (originHost : Bytes) (got : Except String Bytes) :
    Stays (CalledUsable old) (handleTLS env recordLen p replyFirst originHost target got) := by
  have halert : ∀ prtVer desc, Stays (CalledUsable old)
      (sendTLSAlert prtVer desc >>= fun _ => (pure false : Proc Tunnel Bool)) :=
    fun prtVer desc => .bind (stays_sendTLSAlert prtVer desc) fun _ => .pure false
  cases got with
  | error e => exact .pure false
  | ok record =>
    refine .ite (.pure false) ?_
    cases parseClientHello record with
    | panic => exact .lift .panic
    | err e => exact .pure false
    | ok h =>
      refine .ite (halert _ _) (.ite (halert _ _) (.ite ?_ (.lift_bind fun sni _ => ?_)))
      · exact stays_okIf (.bind (stays_dialLate replyFirst) fun _ => stays_onDst _)
      · split
        · exact .pure false
        · exact halert _ _
        · exact stays_okIf (.bind (stays_dialLate replyFirst) fun _ =>
            stays_sendByMode hmode httl record h)

end

/-! ## which TTLs are usable -/

/-- what is asked of `handleTLS` for the target `c :: rest`: `desyncSend` is only called with a usable
TTL, and a named ClientHello is not sent where there is none -/
structure SendsUsable (env : TlsEnv) (p : Policy) (c : UInt8) (rest : Bytes) : Prop where
  usable : ∀ recordLen replyFirst originHost got (t : Tunnel),
    CalledUsable t.desyncTTLs (handleTLS env recordLen p replyFirst originHost (c :: rest) got t).2
  nothing : (∀ ttl, env.getFakeTTL p (c :: rest) (c == lbracket) = .ok ttl → ¬ UsableTTL ttl) →
    ∀ recordLen replyFirst originHost record h (t : Tunnel), parseClientHello record = .ok h →
      0 < h.sniPos → h.sniLen ≠ 0 →
      (handleTLS env recordLen p replyFirst originHost (c :: rest) (.ok record) t).2.dst.sent =
        t.dst.sent

section
variable {env : TlsEnv} {p : Policy} (c : UInt8) (rest : Bytes)

theorem okIf_state (x : Proc Tunnel Unit) (t : Tunnel) : (okIf x t).2 = (x t).2 := by
  unfold okIf
  rcases hx : x t with ⟨r, t'⟩
  cases r with
  | ok u => rw [run_bind_ok (attempt_ok hx)]; rfl
  | err e => rw [run_bind_ok (attempt_err hx)]; rfl
  | panic => rw [run_bind_panic (attempt_panic hx)]

/-- a ClientHello for the requested host comes to the call, whatever the connection does then -/
theorem handleTLS_sample (hmode : p.mode = .ttld) {ttl : Int}
    (httl : tunnelTTL env p (c :: rest) (c == lbracket) = .ok ttl) (t : Tunnel) :
    (handleTLS env 0 p false (lit "a.b") (c :: rest) (.ok sampleHello) t).2.desyncTTLs =
      t.desyncTTLs ++ [ttl] := by
  have hparse : parseClientHello sampleHello = .ok ⟨[3, 3], 61, 3, true⟩ := by decide +kernel
  have hslice : slice sampleHello 61 (61 + (3 : Nat)) = .ok (lit "a.b") := by decide +kernel
  have hmodes : (sendByMode env p (c :: rest) sampleHello ⟨[3, 3], 61, 3, true⟩ t).2.desyncTTLs =
      t.desyncTTLs ++ [ttl] := by
    unfold sendByMode
    rw [hmode]
    show ((lift (tunnelTTL env p (c :: rest) (c == lbracket)) >>= _) t :
      Res Unit × Tunnel).2.desyncTTLs = _
    rw [httl]
    rfl
  have hrun : handleTLS env 0 p false (lit "a.b") (c :: rest) (.ok sampleHello) =
      handleHello env p false (lit "a.b") (c :: rest) sampleHello ⟨[3, 3], 61, 3, true⟩ := by
    unfold handleTLS
    dsimp only
    rw [if_neg (Nat.not_lt_zero _), hparse]
  rw [hrun]
  unfold handleHello
  rw [if_neg (by rw [hmode]; decide), if_neg (fun h => nomatch h.2), if_neg (by decide)]
  rw [handleNamed_eq hslice, tunnelSniMode, if_pos rfl]
  -- nothing is dialed here, so the call is all there is
  exact (congrArg Tunnel.desyncTTLs (okIf_state _ t)).trans hmodes

theorem sendsUsable_iff (hmode : p.mode = .ttld)
    (hpanic : env.getFakeTTL p (c :: rest) (c == lbracket) ≠ .panic) :
    SendsUsable env p c rest ↔
      ∃ ttl, env.getFakeTTL p (c :: rest) (c == lbracket) = .ok ttl ∧ UsableTTL ttl := by
  refine ⟨fun h => ?_, fun ⟨ttl, hget, hu⟩ => ⟨?_, fun hno => absurd hu (hno ttl hget)⟩⟩
  · by_contra hno
    -- the call for the sample has a TTL that is not usable
    have hbad : ∃ ttl, tunnelTTL env p (c :: rest) (c == lbracket) = .ok ttl ∧ ¬ UsableTTL ttl := by
      unfold tunnelTTL
      cases hget : env.getFakeTTL p (c :: rest) (c == lbracket) with
      | panic => exact absurd hget hpanic
      | err e => exact ⟨-1, rfl, by decide⟩
      | ok ttl => exact ⟨ttl, rfl, fun hu => hno ⟨ttl, hget, hu⟩⟩
    obtain ⟨ttl, httl, hnot⟩ := hbad
    have hcalled := h.usable 0 false (lit "a.b") (.ok sampleHello) {}
    unfold CalledUsable at hcalled
    rw [handleTLS_sample c rest hmode httl] at hcalled
    rcases hcalled ttl (List.mem_singleton.mpr rfl) with hold | hu
    · exact nomatch hold
    · exact hnot hu
  · intro recordLen replyFirst originHost got t
    refine handleTLS_stays hmode (fun c' ttl' hc' httl' => ?_) recordLen replyFirst originHost got t
      (fun w hw => .inl hw)
    cases hc'
    unfold tunnelTTL at httl'
    rw [hget] at httl'
    cases httl'
    exact hu

end

section
variable {calcTTL : Option (Int → Res Int)} {p : Policy}
  {getMinimalReachableTTL : Bytes → Bool → Int → Int → Int → Res Int} {addr : Bytes} {ipv6 : Bool}

theorem calcTTL_ne_panic (hrules : RulesLoaded calcTTL) {f : Int → Res Int} (hf : calcTTL = some f)
    (n : Int) : f n ≠ .panic := by
  obtain ⟨conf, hconf⟩ := hrules f hf
  obtain ⟨rules, -, hload⟩ := bind_eq_ok.mp hconf
  by_cases hnil : rules = []
  · rw [if_pos hnil] at hload
    cases hload
    unfold constantTTL
    split_ifs
    · exact fun h => nomatch h
    · exact fun h => nomatch h
  · rw [if_neg hnil] at hload
    cases hload
    unfold Bill.calcTTL
    cases rules.find? fun r => r.threshold ≤ n with
    | none => exact fun h => nomatch h
    | some r => exact fun h => nomatch h

/-- the policy fixes the TTL, or one is found and the rules (or the subtraction of one) keep it in
range -/
def TTLInRange (calcTTL : Option (Int → Res Int)) (p : Policy) (outcome : Res Int) : Prop :=
  1 ≤ p.fakeTTL ∨ ∃ n, outcome = .ok n ∧ n ≠ -1 ∧
    match calcTTL with
    | none => 2 ≤ n
    | some f => ∃ v, f n = .ok v ∧ UsableTTL v

theorem ProbeOutcome.ne_panic {r : Res Int} (h : ProbeOutcome r) : r ≠ .panic := by
  cases h with
  | failed e => exact fun h => nomatch h
  | none => exact fun h => nomatch h
  | found h => exact fun h => nomatch h

theorem getFakeTTL_ne_panic (hrules : RulesLoaded calcTTL)
    (hout : getMinimalReachableTTL addr ipv6 p.maxTTL p.attempts p.singleTimeout ≠ .panic) :
    getFakeTTL calcTTL getMinimalReachableTTL p addr ipv6 ≠ .panic := by
  unfold getFakeTTL
  by_cases hf : p.fakeTTL = 0 ∨ p.fakeTTL = -1
  · rw [if_pos hf]
    generalize getMinimalReachableTTL addr ipv6 p.maxTTL p.attempts p.singleTimeout = out at hout
    cases out with
    | panic => exact absurd rfl hout
    | err e => exact fun h => nomatch h
    | ok n =>
      show (if n = -1 then _ else _) ≠ _
      by_cases hne : n = -1
      · rw [if_pos hne]
        exact fun h => nomatch h
      rw [if_neg hne]
      cases hc : calcTTL with
      | none => exact fun h => nomatch h
      | some f =>
        have hok := calcTTL_ne_panic hrules hc n
        show (f n).wrap _ ≠ _
        cases hv : f n with
        | panic => exact absurd hv hok
        | err e => exact fun h => nomatch h
        | ok v => exact fun h => nomatch h
  · rw [if_neg hf]
    exact fun h => nomatch h

theorem getFakeTTL_usable_iff (hp : p.Valid)
    (hout : ProbeOutcome (getMinimalReachableTTL addr ipv6 p.maxTTL p.attempts p.singleTimeout)) :
    (∃ ttl, getFakeTTL calcTTL getMinimalReachableTTL p addr ipv6 = .ok ttl ∧ UsableTTL ttl) ↔
      TTLInRange calcTTL p (getMinimalReachableTTL addr ipv6 p.maxTTL p.attempts p.singleTimeout) := by
  obtain ⟨hlow, hhigh⟩ := hp.fakeTTL
  unfold getFakeTTL TTLInRange
  by_cases hf : p.fakeTTL = 0 ∨ p.fakeTTL = -1
  · rw [if_pos hf]
    have hnot : ¬ 1 ≤ p.fakeTTL := by omega
    generalize getMinimalReachableTTL addr ipv6 p.maxTTL p.attempts p.singleTimeout = out at hout
    cases hout with
    | failed e =>
      refine ⟨fun ⟨_, h, _⟩ => (nomatch h), fun h => ?_⟩
      obtain ⟨_, h, _⟩ := h.resolve_left hnot
      exact nomatch h
    | none =>
      refine ⟨fun ⟨_, h, _⟩ => (nomatch h), fun h => ?_⟩
      obtain ⟨_, h, hne, _⟩ := h.resolve_left hnot
      cases h
      exact absurd rfl hne
    | @found n hn =>
      obtain ⟨h1, h255⟩ := hn
      have hne : n ≠ -1 := by omega
      show (∃ ttl, (if n = -1 then _ else _) = _ ∧ _) ↔ _
      rw [if_neg hne]
      cases calcTTL with
      | none =>
        have hint : int64 (n - 1) = n - 1 := by
          unfold int64
          rw [Int.bmod_eq_of_le (by omega) (by omega)]
        dsimp only
        rw [hint]
        constructor
        · rintro ⟨ttl, h, hu⟩
          cases h
          exact .inr ⟨n, rfl, hne, by have := hu.1; omega⟩
        · intro h
          obtain ⟨m, hm, -, h2⟩ := h.resolve_left hnot
          cases hm
          exact ⟨n - 1, rfl, by omega, by omega⟩
      | some f =>
        dsimp only
        constructor
        · rintro ⟨ttl, h, hu⟩
          exact .inr ⟨n, rfl, hne, ttl, wrap_eq_ok.mp h, hu⟩
        · intro h
          obtain ⟨m, hm, -, v, hv, hu⟩ := h.resolve_left hnot
          cases hm
          exact ⟨v, wrap_eq_ok.mpr hv, hu⟩
  · rw [if_neg hf]
    refine ⟨fun _ => .inl (by omega), fun _ => ⟨p.fakeTTL, rfl, by omega, hhigh⟩⟩

end

/-- **`desyncSend` is called with a TTL in range exactly if the policy fixes it, or the probe finds one
and the rules keep it in range.** -/
theorem handleTLS_usable_iff (domainFind : Bytes → Option Policy) (defaultPolicy p : Policy)
    (calcTTL : Option (Int → Res Int))
    (getMinimalReachableTTL : Bytes → Bool → Int → Int → Int → Res Int) (c : UInt8) (rest : Bytes)
    (hp : p.Valid) (hmode : p.mode = .ttld) (hrules : RulesLoaded calcTTL)
    (hout : ProbeOutcome (getMinimalReachableTTL (c :: rest) (c == lbracket) p.maxTTL p.attempts
      p.singleTimeout)) :
    SendsUsable ⟨domainFind, defaultPolicy, getFakeTTL calcTTL getMinimalReachableTTL⟩ p c rest ↔
      TTLInRange calcTTL p (getMinimalReachableTTL (c :: rest) (c == lbracket) p.maxTTL p.attempts
        p.singleTimeout) := by
  rw [sendsUsable_iff c rest hmode (getFakeTTL_ne_panic hrules hout.ne_panic)]
  exact getFakeTTL_usable_iff hp hout

/-- a policy that asks for fake packets and leaves their TTL to the probe -/
def probing : Policy := { mode := .ttld, fakeTTL := -1, maxTTL := 30, attempts := 2 }

theorem probing_valid : probing.Valid where
  host := nofun
  mapTo := nofun
  port := ⟨by decide, by decide⟩
  httpStatus := by decide
  numRecords := by decide
  numSegments := by decide
  fakeTTL := ⟨by decide, by decide⟩
  attempts := by decide
  maxTTL := .inr ⟨by decide, by decide⟩
  connectTimeout := by decide
  sendInterval := by decide
  fakeSleep := by decide
  singleTimeout := by decide

theorem handleTLS_usable_iff_hop :
    SendsUsable ⟨fun _ => none, {}, getFakeTTL none fun _ _ _ _ _ => .ok 7⟩ probing 49
        (lit "92.0.2.7:443") ↔
      TTLInRange none probing (.ok 7) :=
  handleTLS_usable_iff (fun _ => none) {} probing none (fun _ _ _ _ _ => .ok 7) 49 (lit "92.0.2.7:443")
    probing_valid rfl (fun f hf => nomatch hf) (.found (by decide))

/-- a connection whose socket refuses the TTL -/
def refusing : Tunnel := { dst := { failing := fun _ => some "invalid argument" } }

/-- the result, the calls of `desyncSend` and what was sent -/
def calledAndSent (x : Res Bool × Tunnel) : Res Bool × List Int × List Wire :=
  (x.1, x.2.desyncTTLs, x.2.dst.sent)

/-- After a failed probe `desyncSend` is called with the TTL `-1`, for which the socket takes its default:
the packet is sent.  By the rule `1-5` it is called with `0` for a host that is five hops away, which the
socket refuses: nothing is sent. -/
theorem handleTLS_calls_unusable :
    calledAndSent (handleTLS ⟨fun _ => none, {}, getFakeTTL none fun _ _ _ _ _ => .err "dial 15: refused"⟩
      sampleHello.length probing false (lit "a.b") (lit "192.0.2.7:443") (.ok sampleHello) {}) =
      (.ok true, [-1], [.desync sampleHello 61 3 (-1)]) ∧
    loadTTLRules (lit "1-5") = .ok (calcTTL [⟨1, .minus, 5⟩]) ∧
    calledAndSent (handleTLS
      ⟨fun _ => none, {}, getFakeTTL (some (calcTTL [⟨1, .minus, 5⟩])) fun _ _ _ _ _ => .ok 5⟩
      sampleHello.length probing false (lit "a.b") (lit "192.0.2.7:443") (.ok sampleHello) refusing) =
      (.ok false, [0], []) := by
  refine ⟨by decide +kernel, ?_, by decide +kernel⟩
  have hparse : parseTTLRules (lit "1-5") = .ok [⟨1, .minus, 5⟩] := by decide +kernel
  unfold loadTTLRules
  rw [hparse]
  rfl

end Bill
