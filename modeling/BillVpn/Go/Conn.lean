import BillVpn.Go.Basic

/-!
# Procedures over a connection

A `Conn ω` records what was sent on it, in events of type `ω`, and knows in advance which of the
sending calls will fail; a connection that never fails is `Reliable`.  Four judgements describe
a procedure without naming the connection it runs on:

* `Proc.Safe x P`       no run of `x` panics, whatever the connection does, and what it returns
                        satisfies `P` (`NoPanic` where nothing is asked of it);
* `Sends x ws a`        over a reliable connection `x` sends exactly `ws` and returns `a`;
* `Crashes x`           over a reliable connection `x` panics;
* `Straight x`          a run that succeeds over any connection has sent the same.

Next to them stand `Proc.Keeps f x` (no run changes what `f` observes), `Proc.NoErr` and
`Proc.Fails`.  Each has a rule for `pure`, `lift`, `send` and `>>=`; the proofs about a procedure follow its
text.  `pieces` cuts a list into blocks of one length and a rest, as a loop over
`d[i*base:(i+1)*base]` does.
-/

set_option linter.unusedVariables false

namespace Go

/-! ## errors and parts of a state -/

namespace Proc
variable {σ τ α β : Type}

/-- `if err != nil { return wrap(msg, err) }` -/
def wrap (msg : String) (x : Proc σ α) : Proc σ α := fun s => ((x s).1.wrap msg, (x s).2)

/-- `v, err := x()`: the error is a value, a panic is not -/
def attempt (x : Proc σ α) : Proc σ (Except String α) := fun s =>
  match x s with
  | (.ok a, s') => (.ok (.ok a), s')
  | (.err e, s') => (.ok (.error e), s')
  | (.panic, s') => (.panic, s')

/-- a procedure on one field of the state -/
def zoom (get : σ → τ) (set : τ → σ → σ) (x : Proc τ α) : Proc σ α := fun s =>
  ((x (get s)).1, set (x (get s)).2 s)

def modify (f : σ → σ) : Proc σ Unit := fun s => (.ok (), f s)

@[simp] theorem run_modify (f : σ → σ) (s : σ) : modify f s = (.ok (), f s) := rfl
@[simp] theorem run_get (s : σ) : (get : Proc σ σ) s = (.ok s, s) := rfl

theorem attempt_ok {x : Proc σ α} {s s' : σ} {a : α} (h : x s = (.ok a, s')) :
    attempt x s = (.ok (.ok a), s') := by
  unfold attempt; rw [h]

theorem attempt_err {x : Proc σ α} {s s' : σ} {e : String} (h : x s = (.err e, s')) :
    attempt x s = (.ok (.error e), s') := by
  unfold attempt; rw [h]

theorem attempt_panic {x : Proc σ α} {s s' : σ} (h : x s = (.panic, s')) :
    attempt x s = (.panic, s') := by
  unfold attempt; rw [h]

theorem attempt_eq_ok {x : Proc σ α} {s s' : σ} {r : Except String α}
    (h : attempt x s = (.ok r, s')) :
    (∃ a, r = .ok a ∧ x s = (.ok a, s')) ∨ ∃ e, r = .error e ∧ x s = (.err e, s') := by
  rcases hx : x s with ⟨t, s1⟩
  cases t with
  | panic => rw [attempt_panic hx] at h; cases h
  | err e => rw [attempt_err hx] at h; cases h; exact Or.inr ⟨e, rfl, rfl⟩
  | ok a => rw [attempt_ok hx] at h; cases h; exact Or.inl ⟨a, rfl, rfl⟩

theorem attempt_eq_value {x : Proc σ α} {s s' : σ} {a : α} (h : attempt x s = (.ok (.ok a), s')) :
    x s = (.ok a, s') := by
  rcases attempt_eq_ok h with ⟨b, hb, hx⟩ | ⟨e, he, -⟩
  · cases hb
    exact hx
  · cases he

theorem zoom_eq {get : σ → τ} {set : τ → σ → σ} {x : Proc τ α} {s : σ} {r : Res α} {t : τ}
    (h : x (get s) = (r, t)) : zoom get set x s = (r, set t s) := by
  unfold zoom; rw [h]

theorem wrap_ok {msg : String} {x : Proc σ α} {s s' : σ} {a : α} (h : x s = (.ok a, s')) :
    wrap msg x s = (.ok a, s') := by
  unfold wrap; rw [h]; rfl

theorem wrap_run {msg : String} {x : Proc σ α} {s s' : σ} {r : Res α} (h : x s = (r, s')) :
    wrap msg x s = (r.wrap msg, s') := by
  unfold wrap; rw [h]

theorem wrap_panic {msg : String} {x : Proc σ α} {s : σ} :
    (wrap msg x s).1 = .panic ↔ (x s).1 = .panic := by
  unfold wrap
  cases h : (x s).1 <;> simp [Res.wrap]

/-! ## no panic -/

/-- no run of `x` panics, and a value it returns satisfies `P` -/
def Safe (x : Proc σ α) (P : α → Prop) : Prop := ∀ s, (x s).1 ≠ .panic ∧ ∀ a, (x s).1 = .ok a → P a

abbrev NoPanic (x : Proc σ α) : Prop := Safe x fun _ => True

section
variable {P : α → Prop} {Q : β → Prop}

theorem NoPanic.run {x : Proc σ α} (h : NoPanic x) (s : σ) : (x s).1 ≠ .panic := (h s).1

theorem Safe.pure {a : α} (h : P a) : Safe (Pure.pure a : Proc σ α) P :=
  fun s => ⟨by simp, fun b hb => by cases hb; exact h⟩

theorem Safe.lift {x : Res α} (h : x ≠ .panic) (hP : ∀ a, x = .ok a → P a) :
    Safe (lift x : Proc σ α) P := fun s => ⟨h, hP⟩

theorem Safe.wrap {msg : String} {x : Proc σ α} (h : Safe x P) : Safe (wrap msg x) P := by
  intro s
  refine ⟨fun hp => (h s).1 (wrap_panic.mp hp), fun a ha => (h s).2 a ?_⟩
  unfold Proc.wrap at ha
  revert ha
  cases (x s).1 <;> simp [Res.wrap]

theorem Safe.bind {x : Proc σ α} {f : α → Proc σ β} (hx : Safe x P)
    (hf : ∀ a, P a → Safe (f a) Q) : Safe (x >>= f) Q := by
  intro s
  rw [run_bind]
  have h := hx s
  rcases hr : x s with ⟨r, s'⟩
  rw [hr] at h
  cases r with
  | panic => exact absurd rfl h.1
  | err e => simp
  | ok a => exact hf a (h.2 a rfl) s'

theorem Safe.lift_bind {x : Res α} {f : α → Proc σ β} (hx : x ≠ .panic)
    (hf : ∀ a, x = .ok a → Safe (f a) Q) : Safe (Proc.lift x >>= f) Q :=
  Safe.bind (P := fun a => x = .ok a) (Safe.lift hx fun _ h => h) hf

theorem Safe.attempt {x : Proc σ α} (h : Safe x P) : NoPanic (attempt x) := by
  intro s
  have hx := (h s).1
  unfold Proc.attempt
  rcases hr : x s with ⟨r, s'⟩
  rw [hr] at hx
  cases r with
  | panic => exact absurd rfl hx
  | err e => simp
  | ok a => simp

theorem Safe.zoom {get : σ → τ} {set : τ → σ → σ} {x : Proc τ α} (h : Safe x P) :
    Safe (zoom get set x) P := fun s => h (get s)

theorem Safe.modify (f : σ → σ) : NoPanic (modify f) := fun s => by simp

theorem Safe.fail (msg : String) : Safe (fail msg : Proc σ α) P := fun s => by simp

theorem Safe.ite {c : Prop} [Decidable c] {x y : Proc σ α} (hx : c → Safe x P)
    (hy : ¬ c → Safe y P) : Safe (if c then x else y) P := by
  by_cases h : c
  · rw [if_pos h]; exact hx h
  · rw [if_neg h]; exact hy h

end

/-! ## what stays unchanged -/

/-- no run of `x` changes what `f` observes of the state -/
def Keeps {γ : Type} (f : σ → γ) (x : Proc σ α) : Prop := ∀ s, f (x s).2 = f s

section
variable {γ : Type} {f : σ → γ}

theorem Keeps.pure (a : α) : Keeps f (Pure.pure a : Proc σ α) := fun s => rfl
theorem Keeps.fail (msg : String) : Keeps f (fail msg : Proc σ α) := fun s => rfl
theorem Keeps.lift (x : Res α) : Keeps f (lift x : Proc σ α) := fun s => rfl
theorem Keeps.get : Keeps f (get : Proc σ σ) := fun s => rfl
theorem Keeps.modify {g : σ → σ} (hg : ∀ s, f (g s) = f s) : Keeps f (modify g) := hg
theorem Keeps.wrap {msg : String} {x : Proc σ α} (hx : Keeps f x) : Keeps f (wrap msg x) := hx

theorem Keeps.map {δ : Type} {x : Proc σ α} (hx : Keeps f x) (h : γ → δ) :
    Keeps (fun s => h (f s)) x := fun s => congrArg h (hx s)

theorem Keeps.bind {x : Proc σ α} {g : α → Proc σ β} (hx : Keeps f x) (hg : ∀ a, Keeps f (g a)) :
    Keeps f (x >>= g) := by
  intro s
  have h := hx s
  rw [run_bind]
  rcases hr : x s with ⟨r, s'⟩
  rw [hr] at h
  cases r with
  | panic => exact h
  | err e => exact h
  | ok a => exact (hg a s').trans h

theorem Keeps.attempt {x : Proc σ α} (hx : Keeps f x) : Keeps f (attempt x) := by
  intro s
  have h := hx s
  unfold Proc.attempt
  rcases hr : x s with ⟨r, s'⟩
  rw [hr] at h
  cases r with
  | panic => exact h
  | err e => exact h
  | ok a => exact h

theorem Keeps.ite {c : Prop} [Decidable c] {x y : Proc σ α} (hx : Keeps f x) (hy : Keeps f y) :
    Keeps f (if c then x else y) := by
  by_cases h : c
  · rw [if_pos h]; exact hx
  · rw [if_neg h]; exact hy

end

/-! ## no value -/

/-- no run of `x` returns a value -/
def Fails (x : Proc σ α) : Prop := ∀ s a, (x s).1 ≠ .ok a

theorem Fails.fail (msg : String) : Fails (fail msg : Proc σ α) := fun s a => by simp

theorem Fails.bind {x : Proc σ α} {f : α → Proc σ β} (hf : ∀ a, Fails (f a)) :
    Fails (x >>= f) := by
  intro s b
  rw [run_bind]
  rcases x s with ⟨r, s'⟩
  cases r with
  | panic => simp
  | err e => simp
  | ok a => exact hf a s' b

/-! ## no error -/

/-- no run of `x` returns an error -/
def NoErr (x : Proc σ α) : Prop := ∀ s e, (x s).1 ≠ .err e

theorem NoErr.pure (a : α) : NoErr (Pure.pure a : Proc σ α) := fun s e => by simp
theorem NoErr.modify (f : σ → σ) : NoErr (modify f) := fun s e => by simp
theorem NoErr.get : NoErr (get : Proc σ σ) := fun s e => by simp

theorem NoErr.attempt (x : Proc σ α) : NoErr (attempt x) := by
  intro s e
  unfold Proc.attempt
  rcases x s with ⟨r, s'⟩
  cases r <;> simp

theorem NoErr.bind {x : Proc σ α} {f : α → Proc σ β} (hx : NoErr x) (hf : ∀ a, NoErr (f a)) :
    NoErr (x >>= f) := by
  intro s e
  rw [run_bind]
  have h := hx s
  rcases hr : x s with ⟨r, s'⟩
  rw [hr] at h
  cases r with
  | panic => simp
  | err e' => exact absurd rfl (h e')
  | ok a => exact hf a s' e

theorem NoErr.ite {c : Prop} [Decidable c] {x y : Proc σ α} (hx : NoErr x) (hy : NoErr y) :
    NoErr (if c then x else y) := by
  by_cases h : c
  · rw [if_pos h]; exact hx
  · rw [if_neg h]; exact hy

end Proc

/-! ## connections -/

structure Conn (ω : Type) where
  sent : List ω := []
  calls : Nat := 0
  closed : Bool := false
  failing : Nat → Option String := fun _ => none

namespace Conn
variable {ω : Type}

/-- one more event on the wire -/
def push (c : Conn ω) (w : ω) : Conn ω := { c with sent := c.sent ++ [w], calls := c.calls + 1 }

/-- a call that sends: it fails as `failing` says, and then sends nothing -/
def send (w : ω) : Proc (Conn ω) Unit := fun c =>
  match c.failing c.calls with
  | some e => (.err e, { c with calls := c.calls + 1 })
  | none => (.ok (), c.push w)

def close : Proc (Conn ω) Unit := Proc.modify fun c => { c with closed := true }

def pushAll (c : Conn ω) (ws : List ω) : Conn ω := ws.foldl push c

def Reliable (c : Conn ω) : Prop := ∀ n, c.failing n = none

@[simp] theorem pushAll_nil (c : Conn ω) : c.pushAll [] = c := rfl
theorem pushAll_cons (c : Conn ω) (w : ω) (ws : List ω) :
    c.pushAll (w :: ws) = (c.push w).pushAll ws := rfl
theorem pushAll_append (c : Conn ω) (ws vs : List ω) :
    c.pushAll (ws ++ vs) = (c.pushAll ws).pushAll vs := List.foldl_append

@[simp] theorem pushAll_sent (c : Conn ω) (ws : List ω) : (c.pushAll ws).sent = c.sent ++ ws := by
  induction ws generalizing c with
  | nil => simp
  | cons w ws ih => rw [pushAll_cons, ih]; simp [push]

@[simp] theorem pushAll_failing (c : Conn ω) (ws : List ω) :
    (c.pushAll ws).failing = c.failing := by
  induction ws generalizing c with
  | nil => rfl
  | cons w ws ih => rw [pushAll_cons, ih]; rfl

theorem Reliable.pushAll {c : Conn ω} (h : c.Reliable) (ws : List ω) : (c.pushAll ws).Reliable :=
  fun n => by rw [pushAll_failing]; exact h n

theorem send_noPanic (w : ω) : Proc.NoPanic (send w) := by
  intro c
  unfold send
  cases c.failing c.calls <;> simp

end Conn

/-! ## what a procedure sends -/

section
variable {ω α β : Type}

/-- over a reliable connection `x` sends exactly `ws` and returns `a` -/
def Sends (x : Proc (Conn ω) α) (ws : List ω) (a : α) : Prop :=
  ∀ c : Conn ω, c.Reliable → x c = (.ok a, c.pushAll ws)

/-- over a reliable connection `x` panics -/
def Crashes (x : Proc (Conn ω) α) : Prop := ∀ c : Conn ω, c.Reliable → (x c).1 = .panic

theorem Sends.pure (a : α) : Sends (Pure.pure a : Proc (Conn ω) α) [] a := fun c _ => rfl

theorem Sends.lift {x : Res α} {a : α} (h : x = .ok a) :
    Sends (Proc.lift x : Proc (Conn ω) α) [] a := fun c _ => by rw [h]; rfl

theorem Sends.send (w : ω) : Sends (Conn.send w) [w] () := by
  intro c hc
  unfold Conn.send
  rw [hc c.calls]
  rfl

theorem Sends.wrap {msg : String} {x : Proc (Conn ω) α} {ws : List ω} {a : α} (h : Sends x ws a) :
    Sends (Proc.wrap msg x) ws a := fun c hc => Proc.wrap_ok (h c hc)

theorem Sends.bind {x : Proc (Conn ω) α} {f : α → Proc (Conn ω) β} {ws vs : List ω} {a : α} {b : β}
    (hx : Sends x ws a) (hf : Sends (f a) vs b) : Sends (x >>= f) (ws ++ vs) b := by
  intro c hc
  rw [Proc.run_bind_ok (hx c hc), hf _ (hc.pushAll ws), ← Conn.pushAll_append]

theorem Sends.lift_bind {x : Res α} {f : α → Proc (Conn ω) β} {vs : List ω} {a : α} {b : β}
    (hx : x = .ok a) (hf : Sends (f a) vs b) : Sends (Proc.lift x >>= f) vs b :=
  (Sends.lift hx).bind hf

theorem Sends.sent_eq {x : Proc (Conn ω) α} {ws : List ω} {a : α} (h : Sends x ws a) :
    (x {}).2.sent = ws := by
  rw [h {} fun _ => rfl, Conn.pushAll_sent]
  rfl

/-- whenever `x` returns over a reliable connection, what it has sent satisfies `P` -/
def Returning (x : Proc (Conn ω) α) (P : List ω → Prop) : Prop :=
  ∀ c c' a, c.Reliable → x c = (.ok a, c') → ∃ ws, c' = c.pushAll ws ∧ P ws

theorem Sends.returning_iff {x : Proc (Conn ω) α} {ws : List ω} {a : α} {P : List ω → Prop}
    (h : Sends x ws a) : Returning x P ↔ P ws := by
  constructor
  · intro hx
    obtain ⟨vs, hc, hP⟩ := hx {} _ a (fun _ => rfl) (h {} fun _ => rfl)
    have hsent := congrArg Conn.sent hc
    rw [Conn.pushAll_sent, Conn.pushAll_sent] at hsent
    rwa [List.append_cancel_left hsent]
  · intro hP c c' b hc hx
    rw [h c hc] at hx
    exact ⟨ws, (Prod.mk.inj hx).2.symm, hP⟩

theorem Crashes.returning {x : Proc (Conn ω) α} (h : Crashes x) (P : List ω → Prop) :
    Returning x P := by
  intro c c' a hc hx
  have hp := h c hc
  rw [hx] at hp
  cases hp

theorem Sends.send_bind {msg : String} {w : ω} {f : Unit → Proc (Conn ω) β} {vs : List ω} {b : β}
    (hf : Sends (f ()) vs b) : Sends (Proc.wrap msg (Conn.send w) >>= f) (w :: vs) b :=
  (Sends.send w).wrap.bind hf

theorem Crashes.lift_bind {x : Res α} {f : α → Proc (Conn ω) β} (hx : x = .panic) :
    Crashes (Proc.lift x >>= f) := fun c _ => by rw [hx]; rfl

theorem Crashes.bind {x : Proc (Conn ω) α} {f : α → Proc (Conn ω) β} {ws : List ω} {a : α}
    (hx : Sends x ws a) (hf : Crashes (f a)) : Crashes (x >>= f) := by
  intro c hc
  rw [Proc.run_bind_ok (hx c hc)]
  exact hf _ (hc.pushAll ws)

/-! ### a connection that may fail -/

/-- a run that succeeds has sent what a run over a reliable connection sends -/
def Straight (x : Proc (Conn ω) α) : Prop :=
  ∀ c a c', x c = (.ok a, c') → ∃ ws, c'.sent = c.sent ++ ws ∧ Sends x ws a

theorem Straight.lift (x : Res α) : Straight (Proc.lift x : Proc (Conn ω) α) := by
  intro c a c' h
  obtain ⟨hx, hc⟩ := Prod.mk.inj h
  exact ⟨[], by rw [← hc, List.append_nil], Sends.lift hx⟩

theorem Straight.pure (a : α) : Straight (Pure.pure a : Proc (Conn ω) α) := Straight.lift (.ok a)

theorem Straight.send (w : ω) : Straight (Conn.send w) := by
  intro c a c' h
  unfold Conn.send at h
  cases hf : c.failing c.calls with
  | some e =>
    rw [hf] at h
    cases h
  | none =>
    rw [hf] at h
    cases h
    exact ⟨[w], rfl, Sends.send w⟩

theorem Straight.wrap {msg : String} {x : Proc (Conn ω) α} (h : Straight x) : Straight (Proc.wrap msg x) := by
  intro c a c' hx
  obtain ⟨h1, h2⟩ := Prod.mk.inj hx
  obtain ⟨ws, hs, hws⟩ := h c a c' (Prod.ext (Res.wrap_eq_ok.mp h1) h2)
  exact ⟨ws, hs, hws.wrap⟩

theorem Straight.bind {x : Proc (Conn ω) α} {f : α → Proc (Conn ω) β} (hx : Straight x)
    (hf : ∀ a, Straight (f a)) : Straight (x >>= f) := by
  intro c b c' h
  obtain ⟨a, c1, h1, h2⟩ := Proc.run_bind_eq_ok.mp h
  obtain ⟨ws, hs1, hws⟩ := hx c a c1 h1
  obtain ⟨vs, hs2, hvs⟩ := hf a c1 b c' h2
  exact ⟨ws ++ vs, by rw [hs2, hs1, List.append_assoc], hws.bind hvs⟩

theorem Straight.ite {p : Prop} [Decidable p] {x y : Proc (Conn ω) α} (hx : Straight x)
    (hy : Straight y) : Straight (if p then x else y) := by
  split_ifs
  · exact hx
  · exact hy

end

/-! ## equal pieces -/

section
variable {α β : Type}

/-- `n` pieces: all of length `base` but the last one, which takes what is left -/
def pieces (base : Nat) : Nat → List α → List (List α)
  | 0, _ => []
  | 1, d => [d]
  | n + 2, d => d.take base :: pieces base (n + 1) (d.drop base)

theorem pieces_flatten (base n : Nat) (d : List α) : (pieces base (n + 1) d).flatten = d := by
  induction n generalizing d with
  | zero => simp [pieces]
  | succ n ih => rw [pieces, List.flatten_cons, ih, List.take_append_drop]

theorem pieces_length (base n : Nat) (d : List α) : (pieces base n d).length = n := by
  induction n generalizing d with
  | zero => rfl
  | succ n ih =>
    cases n with
    | zero => rfl
    | succ n => rw [pieces, List.length_cons, ih]

theorem pieces_ne_nil {base : Nat} (hb : 1 ≤ base) (n : Nat) (d : List α) (h : n * base ≤ d.length) :
    ∀ p ∈ pieces base n d, p ≠ [] := by
  induction n generalizing d with
  | zero => exact fun p hp => absurd hp List.not_mem_nil
  | succ n ih =>
    have hmul : (n + 1) * base = n * base + base := by ring
    cases n with
    | zero =>
      intro p hp
      obtain rfl := List.mem_singleton.mp hp
      exact List.ne_nil_of_length_pos (by omega)
    | succ n =>
      intro p hp
      rcases List.mem_cons.mp hp with rfl | hp
      · exact List.ne_nil_of_length_pos (by rw [List.length_take]; omega)
      · exact ih (d.drop base) (by rw [List.length_drop]; omega) p hp

/-- the `i`-th turn of the loop that cuts `d` -/
def piece (d : List α) (base n i : Nat) : Res (List α) :=
  if i + 1 = n then sliceFrom d ↑(i * base) else slice d ↑(i * base) ↑((i + 1) * base)

theorem piece_zero {d : List α} {base n : Nat} (h : base ≤ d.length) :
    piece d base (n + 2) 0 = .ok (d.take base) := by
  unfold piece
  rw [if_neg (by omega), slice_of_le (by omega) (by omega) (by omega)]
  simp

theorem piece_succ {d : List α} {base n i : Nat} (h : base ≤ d.length) :
    piece d base (n + 1) (i + 1) = piece (d.drop base) base n i := by
  have e1 : (i + 1) * base = base + i * base := by ring
  have e2 : (i + 1 + 1) * base = base + (i + 1) * base := by ring
  have hlen : (d.drop base).length = d.length - base := List.length_drop
  unfold piece sliceFrom slice
  by_cases hi : i + 1 = n
  · rw [if_pos (by omega), if_pos hi, hlen, e1]
    by_cases hb : base + i * base ≤ d.length
    · rw [if_pos (by omega), if_pos (by omega)]
      congr 1
      rw [Int.toNat_natCast, Int.toNat_natCast, List.take_length, Int.toNat_natCast,
        Int.toNat_natCast, List.take_of_length_le (by omega), List.drop_drop]
    · rw [if_neg (by omega), if_neg (by omega)]
  · rw [if_neg (by omega), if_neg hi, hlen, e2]
    by_cases hb : base + (i + 1) * base ≤ d.length
    · rw [if_pos (by omega), if_pos (by omega)]
      congr 1
      rw [Int.toNat_natCast, Int.toNat_natCast, Int.toNat_natCast, List.take_drop, List.drop_drop,
        ← e1]
    · rw [if_neg (by omega), if_neg (by omega)]

theorem map_piece (base n : Nat) (d : List α) (h : n * base ≤ d.length) :
    (List.range n).map (piece d base n) = (pieces base n d).map .ok := by
  induction n generalizing d with
  | zero => rfl
  | succ n ih =>
    cases n with
    | zero =>
      have h0 : piece d base 1 0 = .ok d := by
        unfold piece
        rw [if_pos rfl, sliceFrom_nat (by omega)]
        simp
      show [piece d base 1 0] = [.ok d]
      rw [h0]
    | succ n =>
      have hb : base ≤ d.length := by nlinarith
      have hd : (n + 1) * base ≤ (d.drop base).length := by
        rw [List.length_drop]
        have : (n + 1 + 1) * base = (n + 1) * base + base := by ring
        omega
      rw [List.range_succ_eq_map, List.map_cons, piece_zero hb, List.map_map]
      have hcomp : piece d base (n + 1 + 1) ∘ Nat.succ = piece (d.drop base) base (n + 1) := by
        funext i
        exact piece_succ hb
      rw [hcomp, ih _ hd, pieces, List.map_cons]

theorem mapM_map_ok (g : α → β) (l : List α) :
    (l.map Res.ok).mapM (fun x : Res α => x >>= fun a => Res.ok (g a)) = .ok (l.map g) := by
  induction l with
  | nil => rfl
  | cons a l ih => rw [List.map_cons, List.mapM_cons, ih]; rfl

theorem mapM_piece (g : List α → β) (base n : Nat) (d : List α) (h : n * base ≤ d.length) :
    (List.range n).mapM (fun i => piece d base n i >>= fun p => Res.ok (g p)) =
      .ok ((pieces base n d).map g) := by
  rw [← mapM_map_ok, ← map_piece base n d h, List.mapM_map]
  rfl

end

end Go
