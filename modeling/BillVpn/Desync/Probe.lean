import BillVpn.Config.TTLRules
import BillVpn.Go.Conn

/-!
# The probe for the least reachable TTL

`detectMinimalReachableTTL` halves the interval of TTLs that are left, with `attempts` dials at
each TTL it tries.  The network is ANY function of the number of dials so far and of the TTL
(`dial`): connected, timed out, or failed in another way.  The log of the dials is a part of the
state, so a statement can speak of the dials of one call.

* `tryDial_run`       the dials at one TTL: they end connected, all timed out, or with an error;
* `Halving`           what a round keeps: below `low` nothing answers, `found` is just above `high`;
* `probeLoop_run`     the loop ends, after as many rounds as `maxTTL` has bits;
* `detectMinimalReachableTTL_finds`   the result is a TTL that answered, the least one if answers
                      are monotone in the TTL; what fails leaves the cache as it was.

`low + high` is a sum of `int`s.  From `maxTTL = 2^62` on it may overflow, and then the probe may
return a negative TTL (`detectMinimalReachableTTL_overflow`).
-/

set_option linter.unusedVariables false

namespace Bill

open Go

/-! ## dials at one TTL -/

/-- how a `Dial` ends -/
inductive Dialed where
  | connected
  | timeout
  | failed (e : String)
deriving DecidableEq, Repr

/-- an error that is not a timeout -/
def Dialed.isFailed : Dialed → Bool
  | .failed _ => true
  | _ => false

structure ProbeState (τ : Type) where
  ttlCache : Option τ := none
  ttlCacheTTL : Int := 0
  /-- the dials so far, each with its TTL -/
  calls : List (Int × Dialed) := []
deriving DecidableEq

namespace ProbeState
variable {τ : Type}

def dialed (s : ProbeState τ) (new : List (Int × Dialed)) : ProbeState τ :=
  { s with calls := s.calls ++ new }

theorem dialed_nil (s : ProbeState τ) : s.dialed [] = s := by
  show ({ s with calls := s.calls ++ [] } : ProbeState τ) = s
  rw [List.append_nil]

theorem dialed_dialed (s : ProbeState τ) (a b : List (Int × Dialed)) :
    (s.dialed a).dialed b = s.dialed (a ++ b) := by
  show ({ s with calls := s.calls ++ a ++ b } : ProbeState τ) = { s with calls := s.calls ++ (a ++ b) }
  rw [List.append_assoc]

end ProbeState

section
variable {τ : Type} (dial : Nat → Int → Dialed)

/-- `dialer.Dial("tcp", addr)` with the TTL `mid` set on the socket -/
def dialAt (mid : Int) : Proc (ProbeState τ) Dialed := fun s =>
  (.ok (dial s.calls.length mid), s.dialed [(mid, dial s.calls.length mid)])

/-- `for range attempts { … }`: whether one of the dials connected -/
def tryDial (mid : Int) : Nat → Proc (ProbeState τ) Bool
  | 0 => pure false
  | n + 1 => do
    match ← dialAt dial mid with
    | .connected => pure true
    | .timeout => tryDial mid n
    | .failed e => Proc.fail ("dial " ++ toString mid ++ ": " ++ e)

/-- one of `n` dials at a TTL connects, if the first of them is the `k`-th -/
def answers (mid : Int) : Nat → Nat → Bool
  | _, 0 => false
  | k, n + 1 =>
    match dial k mid with
    | .connected => true
    | .timeout => answers mid (k + 1) n
    | .failed _ => false

/-- no dial failed but by a timeout -/
def OnlyTimeouts (calls : List (Int × Dialed)) : Prop := ∀ c ∈ calls, c.2.isFailed = false

/-- the entries of the log are what the network did, from the `k`-th dial on -/
def Logs (k : Nat) (calls : List (Int × Dialed)) : Prop :=
  ∀ i c, calls[i]? = some c → dial (k + i) c.1 = c.2

/-- how the dials `new` at the TTL `mid` may end -/
inductive Tried (mid : Int) (k n : Nat) : Res Bool → List (Int × Dialed) → Prop where
  | connected {new} (h : OnlyTimeouts new) (hmem : (mid, .connected) ∈ new)
      (ha : answers dial mid k n = true) : Tried mid k n (.ok true) new
  | silent {new} (h : OnlyTimeouts new) (ha : answers dial mid k n = false) :
      Tried mid k n (.ok false) new
  | failed {new} (e : String) (h : ∃ c ∈ new, c.2.isFailed = true) : Tried mid k n (.err e) new

theorem onlyTimeouts_append {a b : List (Int × Dialed)} (ha : OnlyTimeouts a)
    (hb : OnlyTimeouts b) : OnlyTimeouts (a ++ b) := by
  intro c hc
  rcases List.mem_append.mp hc with h | h
  · exact ha c h
  · exact hb c h

theorem logs_nil (k : Nat) : Logs dial k [] := fun i c h => nomatch h

theorem logs_singleton (k : Nat) (mid : Int) : Logs dial k [(mid, dial k mid)] := by
  intro i c h
  cases i with
  | zero => cases h; rfl
  | succ i => exact nomatch h

theorem logs_append {k : Nat} {a b : List (Int × Dialed)} (ha : Logs dial k a)
    (hb : Logs dial (k + a.length) b) : Logs dial k (a ++ b) := by
  intro i c h
  rcases Nat.lt_or_ge i a.length with hi | hi
  · rw [List.getElem?_append_left hi] at h
    exact ha i c h
  · rw [List.getElem?_append_right hi] at h
    have := hb (i - a.length) c h
    rwa [show k + a.length + (i - a.length) = k + i by omega] at this

theorem tryDial_run (mid : Int) (n : Nat) (s : ProbeState τ) :
    ∃ r new, tryDial dial mid n s = (r, s.dialed new) ∧ Logs dial s.calls.length new ∧
      Tried dial mid s.calls.length n r new := by
  induction n generalizing s with
  | zero =>
    exact ⟨.ok false, [], by rw [s.dialed_nil]; rfl, logs_nil dial _,
      .silent (fun c hc => nomatch hc) rfl⟩
  | succ n ih =>
    have hfirst : (dialAt dial mid : Proc (ProbeState τ) Dialed) s =
        (.ok (dial s.calls.length mid), s.dialed [(mid, dial s.calls.length mid)]) := rfl
    have hlog := logs_singleton dial s.calls.length mid
    rw [tryDial, Proc.run_bind_ok hfirst]
    cases hd : dial s.calls.length mid with
    | connected =>
      refine ⟨.ok true, [(mid, .connected)], rfl, hd ▸ hlog,
        .connected ?_ (List.mem_singleton.mpr rfl) ?_⟩
      · intro c hc
        rw [List.mem_singleton.mp hc]
        rfl
      · rw [answers, hd]
    | failed e =>
      exact ⟨_, [(mid, .failed e)], rfl, hd ▸ hlog,
        .failed _ ⟨_, List.mem_singleton.mpr rfl, rfl⟩⟩
    | timeout =>
      obtain ⟨r, new, hrun, hnew, htried⟩ := ih (s.dialed [(mid, .timeout)])
      have hk : (s.dialed [(mid, .timeout)]).calls.length = s.calls.length + 1 :=
        List.length_append
      have hans : answers dial mid s.calls.length (n + 1) =
          answers dial mid (s.calls.length + 1) n := by
        rw [answers, hd]
      have honly : OnlyTimeouts [(mid, Dialed.timeout)] := by
        intro c hc
        rw [List.mem_singleton.mp hc]
        rfl
      rw [hk] at htried hnew
      refine ⟨r, (mid, .timeout) :: new, ?_, logs_append dial (hd ▸ hlog) hnew, ?_⟩
      · show tryDial dial mid n (s.dialed [(mid, .timeout)]) = _
        rw [hrun, s.dialed_dialed]
        rfl
      · cases htried with
        | connected h hmem ha =>
          exact .connected (onlyTimeouts_append honly h) (List.mem_cons_of_mem _ hmem)
            (hans.trans ha)
        | silent h ha => exact .silent (onlyTimeouts_append honly h) (hans.trans ha)
        | failed e h =>
          obtain ⟨c, hc, hf⟩ := h
          exact .failed e ⟨c, List.mem_cons_of_mem _ hc, hf⟩

/-! ## the search -/

/-- `(low + high) / 2` -/
def middle (low high : Int) : Int := (int64 (low + high)).tdiv 2

/-- `for low <= high { … }`; `none` is a loop that is still going on when the fuel is used up.
Half an `int` is far from the ends, so `mid - 1` and `mid + 1` are exact. -/
def probeLoop (attempts : Nat) : Nat → Int → Int → Int → Proc (ProbeState τ) (Option Int)
  | fuel, low, high, found =>
    if low ≤ high then
      match fuel with
      | 0 => pure none
      | fuel + 1 => do
        let mid := middle low high
        let ok ← tryDial dial mid attempts
        if ok then probeLoop attempts fuel low (mid - 1) mid
        else probeLoop attempts fuel (mid + 1) high found
    else pure (some found)

/-- `if ttlCache != nil && found != -1 { ttlCache.AddWithLifetime(addr, found, ttlCacheTTL) }` -/
def cacheFound (addWithLifetime : Bytes → Int → Int → τ → τ) (addr : Bytes) (found : Int) :
    Proc (ProbeState τ) Unit :=
  Proc.modify fun s =>
    if found ≠ -1 then
      { s with ttlCache := s.ttlCache.map (addWithLifetime addr found s.ttlCacheTTL) }
    else s

def detectMinimalReachableTTL (addWithLifetime : Bytes → Int → Int → τ → τ) (fuel : Nat)
    (addr : Bytes) (maxTTL attempts : Int) : Proc (ProbeState τ) (Option Int) := do
  match ← probeLoop dial attempts.toNat fuel 1 maxTTL (-1) with
  | none => pure none
  | some found =>
    cacheFound addWithLifetime addr found
    pure (some found)

theorem middle_mem {low high : Int} (h1 : 1 ≤ low) (h2 : low ≤ high) (h3 : high < 2 ^ 62) :
    middle low high = (low + high) / 2 := by
  have hint : int64 (low + high) = low + high := by
    unfold int64
    rw [Int.bmod_eq_of_le]
    · omega
    · omega
  rw [middle, hint, Int.tdiv_eq_ediv_of_nonneg (by omega)]

/-- a host that answers at a TTL answers at every higher one, whenever it is asked -/
def Monotone (attempts : Nat) (maxTTL : Int) : Prop :=
  ∀ k k' t t', 1 ≤ t → t ≤ t' → t' ≤ maxTTL →
    answers dial t k attempts = true → answers dial t' k' attempts = true

/-- what the rounds keep; `calls` are the dials of this call so far -/
structure Halving (attempts : Nat) (maxTTL low high found : Int) (calls : List (Int × Dialed)) :
    Prop where
  low_pos : 1 ≤ low
  high_le : high ≤ maxTTL
  order : low ≤ high + 1
  timeouts : OnlyTimeouts calls
  found_high : found = -1 ∧ high = maxTTL ∨
    found = high + 1 ∧ high < maxTTL ∧ (found, .connected) ∈ calls
  below : Monotone dial attempts maxTTL → ∀ t, 1 ≤ t → t < low → ∀ k,
    answers dial t k attempts = false
  above : Monotone dial attempts maxTTL → found ≠ -1 → ∀ k, answers dial found k attempts = true

variable {dial}
variable {attempts : Nat} {maxTTL low high found : Int} {calls new : List (Int × Dialed)}

theorem Halving.start (hmax : 1 ≤ maxTTL) : Halving dial attempts maxTTL 1 maxTTL (-1) [] where
  low_pos := Int.le_refl 1
  high_le := Int.le_refl maxTTL
  order := by omega
  timeouts := fun c hc => nomatch hc
  found_high := .inl ⟨rfl, rfl⟩
  below := fun hmono t h1 h2 => by omega
  above := fun hmono h => absurd rfl h

theorem Halving.lower (h : Halving dial attempts maxTTL low high found calls) {mid : Int} {k : Nat}
    (hlow : low ≤ mid) (hhigh : mid ≤ high) (htime : OnlyTimeouts new)
    (hmem : (mid, .connected) ∈ new) (hans : answers dial mid k attempts = true) :
    Halving dial attempts maxTTL low (mid - 1) mid (calls ++ new) where
  low_pos := h.low_pos
  high_le := by have := h.high_le; omega
  order := by omega
  timeouts := onlyTimeouts_append h.timeouts htime
  found_high := by
    have := h.high_le
    exact .inr ⟨by omega, by omega, List.mem_append_right _ hmem⟩
  below := h.below
  above := by
    intro hmono hne k'
    have h1 := h.low_pos
    have h2 := h.high_le
    exact hmono k k' mid mid (by omega) (Int.le_refl mid) (by omega) hans

theorem Halving.raise (h : Halving dial attempts maxTTL low high found calls) {mid : Int} {k : Nat}
    (hlow : low ≤ mid) (hhigh : mid ≤ high) (htime : OnlyTimeouts new)
    (hans : answers dial mid k attempts = false) :
    Halving dial attempts maxTTL (mid + 1) high found (calls ++ new) where
  low_pos := by have := h.low_pos; omega
  high_le := h.high_le
  order := by omega
  timeouts := onlyTimeouts_append h.timeouts htime
  found_high := by
    rcases h.found_high with hf | ⟨hf, hlt, hmem⟩
    · exact .inl hf
    · exact .inr ⟨hf, hlt, List.mem_append_left _ hmem⟩
  below := by
    intro hmono t h1 h2 k'
    have hle := h.high_le
    by_contra hne
    rw [Bool.not_eq_false] at hne
    -- a lower TTL that answers would make `mid` answer
    have := hmono k' k t mid h1 (by omega) (by omega) hne
    rw [hans] at this
    exact nomatch this
  above := h.above

/-- the end of the search: with an error at a dial that failed, or with a TTL -/
inductive Probed (dial : Nat → Int → Dialed) (attempts : Nat) (maxTTL : Int) :
    Res (Option Int) → List (Int × Dialed) → Prop where
  | failed {calls : List (Int × Dialed)} (e : String) (h : ∃ c ∈ calls, c.2.isFailed = true) :
      Probed dial attempts maxTTL (.err e) calls
  | ended {calls : List (Int × Dialed)} {low found : Int}
      (h : Halving dial attempts maxTTL low (low - 1) found calls) :
      Probed dial attempts maxTTL (.ok (some found)) calls

/-- from the dials `calls` on, `x` adds some dials and comes to the end of the search -/
def Searches (dial : Nat → Int → Dialed) (attempts : Nat) (maxTTL : Int) (s : ProbeState τ)
    (calls : List (Int × Dialed)) (x : Proc (ProbeState τ) (Option Int)) : Prop :=
  ∃ r new, x (s.dialed calls) = (r, s.dialed (calls ++ new)) ∧
    Logs dial (s.dialed calls).calls.length new ∧ Probed dial attempts maxTTL r (calls ++ new)

theorem Searches.round {s : ProbeState τ} {x : Proc (ProbeState τ) Bool}
    {f : Bool → Proc (ProbeState τ) (Option Int)} {ok : Bool} {tried : List (Int × Dialed)}
    (hx : x (s.dialed calls) = (.ok ok, s.dialed (calls ++ tried)))
    (hlog : Logs dial (s.dialed calls).calls.length tried)
    (hf : Searches dial attempts maxTTL s (calls ++ tried) (f ok)) :
    Searches dial attempts maxTTL s calls (x >>= f) := by
  obtain ⟨r, new, hrun, hnew, hend⟩ := hf
  have hlen : (s.dialed (calls ++ tried)).calls.length =
      (s.dialed calls).calls.length + tried.length := by
    rw [← s.dialed_dialed]
    exact List.length_append
  rw [List.append_assoc] at hrun hend
  refine ⟨r, tried ++ new, ?_, logs_append dial hlog (hlen ▸ hnew), hend⟩
  rw [Proc.run_bind_ok hx]
  exact hrun

theorem probeLoop_end (fuel : Nat) (s : ProbeState τ)
    (h : Halving dial attempts maxTTL low high found calls) (hgt : ¬ low ≤ high) :
    Searches dial attempts maxTTL s calls (probeLoop dial attempts fuel low high found) := by
  have hend : high = low - 1 := by have := h.order; omega
  unfold probeLoop
  rw [if_neg hgt]
  refine ⟨.ok (some found), [], by rw [List.append_nil]; rfl, logs_nil dial _, ?_⟩
  rw [List.append_nil]
  exact .ended (hend ▸ h)

/-- **the search ends**, after at most as many rounds as the interval has bits -/
theorem probeLoop_run (fuel : Nat) (s : ProbeState τ) (hmax : maxTTL < 2 ^ 62)
    (h : Halving dial attempts maxTTL low high found calls) (hfuel : high - low + 1 < 2 ^ fuel) :
    Searches dial attempts maxTTL s calls (probeLoop dial attempts fuel low high found) := by
  induction fuel generalizing low high found calls with
  | zero => exact probeLoop_end 0 s h (by omega)
  | succ fuel ih =>
    by_cases hle : low ≤ high
    · have hmid := middle_mem h.low_pos hle (by have := h.high_le; omega)
      have hlow : low ≤ middle low high := by omega
      have hhigh : middle low high ≤ high := by omega
      have hpow : (2 : Int) ^ (fuel + 1) = 2 * 2 ^ fuel := by rw [Int.pow_succ, Int.mul_comm]
      obtain ⟨r, tried, hrun, hlog, htried⟩ :=
        tryDial_run dial (middle low high) attempts (s.dialed calls)
      rw [s.dialed_dialed] at hrun
      rw [probeLoop, if_pos hle]
      cases htried with
      | connected htime hmem hans =>
        exact .round hrun hlog (ih (h.lower hlow hhigh htime hmem hans) (by omega))
      | silent htime hans =>
        exact .round hrun hlog (ih (h.raise hlow hhigh htime hans) (by omega))
      | failed e hfail =>
        obtain ⟨c, hc, hf⟩ := hfail
        refine ⟨.err e, tried, ?_, hlog, .failed e ⟨c, List.mem_append_right _ hc, hf⟩⟩
        show (tryDial dial (middle low high) attempts >>= _) _ = _
        rw [Proc.run_bind_err hrun]
    · exact probeLoop_end (fuel + 1) s h hle

/-! ## the call -/

/-- the TTLs that the probe looks among and at which the host answers -/
def Reachable (dial : Nat → Int → Dialed) (attempts : Nat) (maxTTL : Int) : Set Int :=
  { t | 1 ≤ t ∧ t ≤ maxTTL ∧ ∃ k, answers dial t k attempts = true }

/-- what the search ends with, if it ends without an error -/
structure Finds (dial : Nat → Int → Dialed) (attempts : Nat) (maxTTL found : Int)
    (calls : List (Int × Dialed)) : Prop where
  answered : found ≠ -1 → 1 ≤ found ∧ found ≤ maxTTL ∧ (found, .connected) ∈ calls
  least : Monotone dial attempts maxTTL → found ≠ -1 →
    IsLeast (Reachable dial attempts maxTTL) found
  none : Monotone dial attempts maxTTL → (found = -1 ↔ Reachable dial attempts maxTTL = ∅)

theorem Halving.finds (h : Halving dial attempts maxTTL low (low - 1) found calls) :
    Finds dial attempts maxTTL found calls := by
  have hlow := h.low_pos
  have hans : found ≠ -1 → found = low ∧ low ≤ maxTTL ∧ (found, .connected) ∈ calls := by
    intro hne
    rcases h.found_high with ⟨hf, _⟩ | ⟨hf, hlt, hmem⟩
    · exact absurd hf hne
    · exact ⟨by omega, by omega, hmem⟩
  have hleast : Monotone dial attempts maxTTL → found ≠ -1 →
      IsLeast (Reachable dial attempts maxTTL) found := by
    intro hmono hne
    obtain ⟨hf, hle, _⟩ := hans hne
    refine ⟨⟨by omega, by omega, 0, h.above hmono hne 0⟩, fun t ht => ?_⟩
    obtain ⟨h1, h2, k, hk⟩ := ht
    by_contra hlt
    have := h.below hmono t h1 (by omega) k
    rw [hk] at this
    exact nomatch this
  refine ⟨fun hne => ?_, hleast, fun hmono => ⟨fun hf => ?_, fun hempty => ?_⟩⟩
  · obtain ⟨hf, hle, hmem⟩ := hans hne
    exact ⟨by omega, by omega, hmem⟩
  · -- nothing was found: `high` never moved and all TTLs are below `low`
    have hhigh : low - 1 = maxTTL := by
      rcases h.found_high with ⟨_, hh⟩ | ⟨hh, _⟩
      · exact hh
      · omega
    refine Set.eq_empty_of_forall_notMem fun t ht => ?_
    obtain ⟨h1, h2, k, hk⟩ := ht
    have := h.below hmono t h1 (by omega) k
    rw [hk] at this
    exact nomatch this
  · by_contra hne
    have := (hleast hmono hne).1
    rw [hempty] at this
    exact this

/-- what a call does: the dials `calls`, the end `r` and the cache afterwards -/
inductive Detected (dial : Nat → Int → Dialed) (add : Int → τ → τ) (attempts : Nat) (maxTTL : Int)
    (cache : Option τ) : Res (Option Int) → List (Int × Dialed) → Option τ → Prop where
  | failed {calls : List (Int × Dialed)} (e : String) (h : ∃ c ∈ calls, c.2.isFailed = true) :
      Detected dial add attempts maxTTL cache (.err e) calls cache
  | found {calls : List (Int × Dialed)} (t : Int) (h : OnlyTimeouts calls)
      (hf : Finds dial attempts maxTTL t calls) :
      Detected dial add attempts maxTTL cache (.ok (some t)) calls
        (if t = -1 then cache else cache.map (add t))

theorem cacheFound_run (addWithLifetime : Bytes → Int → Int → τ → τ) (addr : Bytes) (found : Int)
    (s : ProbeState τ) :
    cacheFound addWithLifetime addr found s =
      (.ok (), { s with
        ttlCache := if found = -1 then s.ttlCache
          else s.ttlCache.map (addWithLifetime addr found s.ttlCacheTTL) }) := by
  show (Res.ok (), ite (found ≠ -1) _ s) = _
  by_cases hf : found = -1
  · rw [if_pos hf, if_neg (not_not_intro hf)]
  · rw [if_neg hf, if_pos hf]

/-- what a call does to the state: its dials are logged, and only the cache changes besides -/
def Detects (dial : Nat → Int → Dialed) (add : Int → τ → τ) (attempts : Nat) (maxTTL : Int)
    (s : ProbeState τ) (out : Res (Option Int) × ProbeState τ) : Prop :=
  ∃ calls cache, out.2 = { s with ttlCache := cache, calls := s.calls ++ calls } ∧
    Logs dial s.calls.length calls ∧
    Detected dial add attempts maxTTL s.ttlCache out.1 calls cache

/-- **the probe finds the least reachable TTL**, for every `int` that can be doubled -/
theorem detectMinimalReachableTTL_finds (dial : Nat → Int → Dialed)
    (addWithLifetime : Bytes → Int → Int → τ → τ) (fuel : Nat) (addr : Bytes)
    (maxTTL attempts : Int) (s : ProbeState τ) (hpos : 1 ≤ maxTTL) (hmax : maxTTL < 2 ^ 62)
    (hfuel : maxTTL < 2 ^ fuel) :
    Detects dial (fun t => addWithLifetime addr t s.ttlCacheTTL) attempts.toNat maxTTL s
      (detectMinimalReachableTTL dial addWithLifetime fuel addr maxTTL attempts s) := by
  have hstart : Halving dial attempts.toNat maxTTL 1 maxTTL (-1) [] := Halving.start hpos
  obtain ⟨r, calls, hrun, hlog, hend⟩ := probeLoop_run fuel s hmax hstart (by omega)
  rw [s.dialed_nil] at hlog
  rw [s.dialed_nil, List.nil_append] at hrun
  rw [List.nil_append] at hend
  unfold detectMinimalReachableTTL
  cases hend with
  | failed e h =>
    rw [Proc.run_bind_err hrun]
    exact ⟨calls, s.ttlCache, rfl, hlog, .failed e h⟩
  | @ended _ low found h =>
    rw [Proc.run_bind_ok hrun]
    show Detects _ _ _ _ _ ((cacheFound addWithLifetime addr found >>= _) _)
    rw [Proc.run_bind_ok (cacheFound_run addWithLifetime addr found _)]
    exact ⟨calls, _, rfl, hlog, .found found h.timeouts h.finds⟩

/-- a host three hops away, probed up to 255 with two attempts -/
theorem detectMinimalReachableTTL_finds_three :
    (1 : Int) ≤ 255 ∧ (255 : Int) < 2 ^ 62 ∧ (255 : Int) < 2 ^ 8 ∧
    Detects (fun _ t => if 3 ≤ t then .connected else .timeout) (fun t _ => t) 2 255
      { ttlCache := some 0 }
      (detectMinimalReachableTTL (fun _ t => if 3 ≤ t then .connected else .timeout)
        (fun _ t _ _ => t) 8 [] 255 2 { ttlCache := some (0 : Int) }) :=
  ⟨by decide, by decide, by decide,
    detectMinimalReachableTTL_finds (fun _ t => if 3 ≤ t then .connected else .timeout)
      (fun _ t _ _ => t) 8 [] 255 2 { ttlCache := some 0 } (by decide) (by decide) (by decide)⟩

/-- the sum of the first and the greatest `int` overflows: the first dial is at a negative TTL,
and its success is what the probe returns and caches -/
theorem detectMinimalReachableTTL_overflow :
    detectMinimalReachableTTL (fun _ _ => .connected) (fun _ t _ _ => t) 64 [] (2 ^ 63 - 1) 1
      { ttlCache := some (0 : Int) } =
    (.ok (some (-2 ^ 62)),
      { ttlCache := some (-2 ^ 62), calls := [(-2 ^ 62, .connected)] }) := by
  decide +kernel

/-! ## the cache in front of it -/

/-- a probe that is shared with other calls for the address runs once for all of them; what is
modelled is that run -/
def getMinimalReachableTTL (dial : Nat → Int → Dialed) (get : Bytes → τ → Option Int × τ)
    (addWithLifetime : Bytes → Int → Int → τ → τ) (fuel : Nat) (addr : Bytes)
    (maxTTL attempts : Int) : Proc (ProbeState τ) (Option (Int × Bool)) := fun s =>
  let looked := s.ttlCache.map (get addr)
  let s' := { s with ttlCache := looked.map (·.2) }
  match looked.bind (·.1) with
  | some ttl => (.ok (some (ttl, true)), s')
  | none =>
    (do
      let found ← detectMinimalReachableTTL dial addWithLifetime fuel addr maxTTL attempts
      pure (found.map fun t => (t, false))) s'

end

end Bill
