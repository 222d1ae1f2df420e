import BillVpn.Go.Run

/-!
# Two programs and a connection

Each end of a connection runs a program that writes, reads a number of bytes with `io.ReadFull`, and
returns.  The bytes of each direction stay in order and arrive in pieces of any size.

* `Party`            such a program; a read gives nothing if the other end has closed too early;
* `Ends l r n c t`   from `c`, two deterministic ends come to rest in `t` after `n` steps;
* `Ends.of_left`, `Ends.of_right`   with the diamond property, whoever moves first;
* `Settles`          such a run, with a rule for each step;
* `Link`             the connection with its pieces, `Link.step` in any order;
* `Link.confluent`   **one complete run decides all**: every schedule leads there, and whoever has
                     returned has returned the same.
-/

set_option linter.unusedVariables false

namespace Go

/-! ## two deterministic ends -/

section
variable {γ : Type} (l r : γ → Option γ)

inductive Ends : Nat → γ → γ → Prop where
  | stop {c} (hl : l c = none) (hr : r c = none) : Ends 0 c c
  | left {n c c' t} (h : l c = some c') (he : Ends n c' t) : Ends (n + 1) c t
  | right {n c c' t} (h : r c = some c') (he : Ends n c' t) : Ends (n + 1) c t

def Diamond : Prop :=
  ∀ c a b, l c = some a → r c = some b → ∃ d, r a = some d ∧ l b = some d

variable {l r} {n : Nat} {c c' t : γ}

theorem Ends.of_left (hd : Diamond l r) (he : Ends l r n c t) :
    ∀ {c'}, l c = some c' → ∃ m, m + 1 = n ∧ Ends l r m c' t := by
  induction he with
  | stop hl hr =>
    intro c' h
    rw [hl] at h
    cases h
  | left h he ih =>
    intro c' h'
    rw [h] at h'
    cases h'
    exact ⟨_, rfl, he⟩
  | right h he ih =>
    intro c' h'
    obtain ⟨d, hr, hl⟩ := hd _ _ _ h' h
    obtain ⟨m, rfl, hm⟩ := ih hl
    exact ⟨m + 1, rfl, .right hr hm⟩

theorem Ends.of_right (hd : Diamond l r) (he : Ends l r n c t) :
    ∀ {c'}, r c = some c' → ∃ m, m + 1 = n ∧ Ends l r m c' t := by
  induction he with
  | stop hl hr =>
    intro c' h
    rw [hr] at h
    cases h
  | left h he ih =>
    intro c' h'
    obtain ⟨d, hr, hl⟩ := hd _ _ _ h h'
    obtain ⟨m, rfl, hm⟩ := ih hr
    exact ⟨m + 1, rfl, .left hl hm⟩
  | right h he ih =>
    intro c' h'
    rw [h] at h'
    cases h'
    exact ⟨_, rfl, he⟩

end

/-! ## programs on a connection -/

inductive Party (α : Type) where
  | done (a : α)
  | write (b : Bytes) (k : Party α)
  | read (n : Nat) (k : Option Bytes → Party α)

namespace Party

section
variable {α β : Type}

def bind (f : α → Party β) : Party α → Party β
  | .done a => f a
  | .write b k => .write b (k.bind f)
  | .read n k => .read n fun r => (k r).bind f

instance monadParty : Monad Party where
  pure := .done
  bind x f := x.bind f

/-- One step: the program after it, what is left of the bytes that have arrived, and what it sends.
`shut` is whether nothing more will arrive. -/
def act (shut : Bool) : Party α → Bytes → Option (Party α × Bytes × Bytes)
  | .done _, _ => none
  | .write b k, inbox => some (k, inbox, b)
  | .read n k, inbox =>
    if n ≤ inbox.length then some (k (some (inbox.take n)), inbox.drop n, [])
    else if shut then some (k none, [], [])
    else none

theorem act_read (s : Bool) (n : Nat) (k : Option Bytes → Party α) (i : Bytes) :
    (read n k).act s i =
      if n ≤ i.length then some (k (some (i.take n)), i.drop n, [])
      else if s then some (k none, [], []) else none := rfl

/-- The program on a complete input, with the end of the stream behind it: what it writes, what it
returns, and what it leaves. -/
def alone : Party α → Bytes → Bytes × α × Bytes
  | .done a, input => ([], a, input)
  | .write b k, input => (b ++ (k.alone input).1, (k.alone input).2)
  | .read n k, input =>
    if n ≤ input.length then (k (some (input.take n))).alone (input.drop n) else (k none).alone []

theorem alone_read (n : Nat) (k : Option Bytes → Party α) (input : Bytes) :
    (read n k).alone input =
      if n ≤ input.length then (k (some (input.take n))).alone (input.drop n)
      else (k none).alone [] := rfl

theorem alone_bind (f : α → Party β) (p : Party α) : ∀ input,
    (p.bind f).alone input =
      ((p.alone input).1 ++ ((f (p.alone input).2.1).alone (p.alone input).2.2).1,
        ((f (p.alone input).2.1).alone (p.alone input).2.2).2) := by
  induction p with
  | done a => exact fun input => rfl
  | write b k ih =>
    intro input
    show (b ++ ((k.bind f).alone input).1, ((k.bind f).alone input).2) = _
    rw [ih input]
    show (b ++ (_ ++ _), _) = (b ++ _ ++ _, _)
    rw [List.append_assoc]
    rfl
  | read n k ih =>
    intro input
    show (read n fun r => (k r).bind f).alone input = _
    rw [alone_read, alone_read]
    split_ifs
    · exact ih _ _
    · exact ih _ _

def closed (shuts : α → Bool) : Party α → Bool
  | .done a => shuts a
  | _ => false

variable {p : Party α} {s : Bool} {i : Bytes} {x : Party α × Bytes × Bytes}

theorem closed_of_act (h : p.act s i = some x) (shuts : α → Bool) : p.closed shuts = false := by
  cases p with
  | done a => cases h
  | write b k => rfl
  | read n k => rfl

theorem act_inbox (h : p.act false i = some x) (s : Bool) (w : Bytes) :
    p.act s (i ++ w) = some (x.1, x.2.1 ++ w, x.2.2) := by
  cases p with
  | done a => cases h
  | write b k =>
    cases h
    rfl
  | read n k =>
    rw [act_read] at h ⊢
    by_cases hn : n ≤ i.length
    · rw [if_pos hn] at h
      cases h
      rw [if_pos (by rw [List.length_append]; omega), List.take_append_of_le_length hn,
        List.drop_append_of_le_length hn]
    · rw [if_neg hn] at h
      cases h

end
end Party

/-! ## both ends, and the bytes between them -/

structure Conf (α β : Type) where
  left : Party α
  right : Party β
  toRight : Bytes := []
  toLeft : Bytes := []

section
variable {α β : Type} (shutsL : α → Bool) (shutsR : β → Bool)

namespace Conf

def actL (c : Conf α β) : Option (Conf α β) :=
  (c.left.act (c.right.closed shutsR) c.toLeft).map fun x =>
    { c with left := x.1, toLeft := x.2.1, toRight := c.toRight ++ x.2.2 }

def actR (c : Conf α β) : Option (Conf α β) :=
  (c.right.act (c.left.closed shutsL) c.toRight).map fun x =>
    { c with right := x.1, toRight := x.2.1, toLeft := c.toLeft ++ x.2.2 }

/-- one end only adds to what the other reads -/
theorem diamond : Diamond (actL (α := α) shutsR) (actR (β := β) shutsL) := by
  intro c a b ha hb
  obtain ⟨x, hx, rfl⟩ := Option.map_eq_some_iff.mp ha
  obtain ⟨y, hy, rfl⟩ := Option.map_eq_some_iff.mp hb
  -- neither has returned, so neither waits for a closed connection
  rw [Party.closed_of_act hy] at hx
  rw [Party.closed_of_act hx] at hy
  refine ⟨⟨x.1, y.1, y.2.1 ++ x.2.2, x.2.1 ++ y.2.2⟩, ?_, ?_⟩
  · exact Option.map_eq_some_iff.mpr ⟨_, Party.act_inbox hy _ _, rfl⟩
  · exact Option.map_eq_some_iff.mpr ⟨_, Party.act_inbox hx _ _, rfl⟩

end Conf

/-! ## a complete run, step by step -/

def Settles (c t : Conf α β) : Prop := ∃ n, Ends (Conf.actL shutsR) (Conf.actR shutsL) n c t

section
variable {shutsL} {shutsR} {t : Conf α β} {p : Party α} {q : Party β} {i o x : Bytes} {n : Nat}

theorem Settles.stop (a : α) (b : β) (i o : Bytes) :
    Settles shutsL shutsR ⟨.done a, .done b, o, i⟩ ⟨.done a, .done b, o, i⟩ :=
  ⟨0, .stop rfl rfl⟩

theorem Settles.writeL {b : Bytes} (h : Settles shutsL shutsR ⟨p, q, o ++ b, i⟩ t) :
    Settles shutsL shutsR ⟨.write b p, q, o, i⟩ t := by
  obtain ⟨n, h⟩ := h
  exact ⟨n + 1, .left rfl h⟩

theorem Settles.writeR {b : Bytes} (h : Settles shutsL shutsR ⟨p, q, o, i ++ b⟩ t) :
    Settles shutsL shutsR ⟨p, .write b q, o, i⟩ t := by
  obtain ⟨n, h⟩ := h
  exact ⟨n + 1, .right rfl h⟩

theorem Settles.readL {k : Option Bytes → Party α} (x : Bytes) (hx : x.length = n)
    (h : Settles shutsL shutsR ⟨k (some x), q, o, i⟩ t) :
    Settles shutsL shutsR ⟨.read n k, q, o, x ++ i⟩ t := by
  subst hx
  obtain ⟨n, h⟩ := h
  refine ⟨n + 1, .left ?_ h⟩
  unfold Conf.actL
  dsimp only
  rw [Party.act_read, if_pos (by rw [List.length_append]; omega), List.take_left, List.drop_left]
  show some (Conf.mk _ _ (o ++ []) _) = _
  rw [List.append_nil]

theorem Settles.readR {k : Option Bytes → Party β} (x : Bytes) (hx : x.length = n)
    (h : Settles shutsL shutsR ⟨p, k (some x), o, i⟩ t) :
    Settles shutsL shutsR ⟨p, .read n k, x ++ o, i⟩ t := by
  subst hx
  obtain ⟨n, h⟩ := h
  refine ⟨n + 1, .right ?_ h⟩
  unfold Conf.actR
  dsimp only
  rw [Party.act_read, if_pos (by rw [List.length_append]; omega), List.take_left, List.drop_left]
  show some (Conf.mk _ _ _ (i ++ [])) = _
  rw [List.append_nil]

end

/-! ## bytes in pieces -/

/-- one direction: what has arrived, and what is on its way -/
structure Wire where
  arrived : Bytes := []
  flying : Bytes := []

def Wire.all (w : Wire) : Bytes := w.arrived ++ w.flying

/-- the next `n` bytes arrive -/
def Wire.carry (n : Nat) (w : Wire) : Wire := ⟨w.arrived ++ w.flying.take n, w.flying.drop n⟩

theorem Wire.carry_all (n : Nat) (w : Wire) : (w.carry n).all = w.all := by
  unfold Wire.carry Wire.all
  rw [List.append_assoc, List.take_append_drop]

structure Link (α β : Type) where
  left : Party α
  right : Party β
  toRight : Wire := {}
  toLeft : Wire := {}

inductive LinkEvent where
  | left
  | right
  | carryRight (n : Nat)
  | carryLeft (n : Nat)

namespace Link

def conf (k : Link α β) : Conf α β := ⟨k.left, k.right, k.toRight.all, k.toLeft.all⟩

/-- an end sees only what has arrived, and the end of the stream after the last byte -/
def moveL (k : Link α β) : Link α β :=
  match k.left.act (k.right.closed shutsR && k.toLeft.flying.isEmpty) k.toLeft.arrived with
  | none => k
  | some x =>
    { k with
      left := x.1
      toLeft := { k.toLeft with arrived := x.2.1 }
      toRight := { k.toRight with flying := k.toRight.flying ++ x.2.2 } }

def moveR (k : Link α β) : Link α β :=
  match k.right.act (k.left.closed shutsL && k.toRight.flying.isEmpty) k.toRight.arrived with
  | none => k
  | some x =>
    { k with
      right := x.1
      toRight := { k.toRight with arrived := x.2.1 }
      toLeft := { k.toLeft with flying := k.toLeft.flying ++ x.2.2 } }

def step : LinkEvent → Link α β → Link α β
  | .left, k => moveL shutsR k
  | .right, k => moveR shutsL k
  | .carryRight n, k => { k with toRight := k.toRight.carry n }
  | .carryLeft n, k => { k with toLeft := k.toLeft.carry n }

variable {shutsL} {shutsR}

/-- what an end can do with what has arrived it can do with all that was sent -/
theorem act_wire {α : Type} {p : Party α} {shut : Bool} {w : Wire} {x : Party α × Bytes × Bytes}
    (h : p.act (shut && w.flying.isEmpty) w.arrived = some x) :
    p.act shut w.all = some (x.1, x.2.1 ++ w.flying, x.2.2) := by
  cases hf : w.flying with
  | nil =>
    rw [hf, List.isEmpty_nil, Bool.and_true] at h
    unfold Wire.all
    rw [hf, List.append_nil, List.append_nil]
    exact h
  | cons b bs =>
    rw [hf, List.isEmpty_cons, Bool.and_false] at h
    unfold Wire.all
    rw [hf]
    exact Party.act_inbox h _ _

theorem moveL_cases (shutsR : β → Bool) (k : Link α β) :
    moveL shutsR k = k ∨ k.conf.actL shutsR = some (moveL shutsR k).conf := by
  unfold moveL
  split
  · exact .inl rfl
  · rename_i x hx
    refine .inr (Option.map_eq_some_iff.mpr ⟨_, act_wire hx, ?_⟩)
    show Conf.mk _ _ (k.toRight.arrived ++ k.toRight.flying ++ x.2.2) _ =
      Conf.mk _ _ (k.toRight.arrived ++ (k.toRight.flying ++ x.2.2)) _
    rw [List.append_assoc]
    rfl

theorem moveR_cases (shutsL : α → Bool) (k : Link α β) :
    moveR shutsL k = k ∨ k.conf.actR shutsL = some (moveR shutsL k).conf := by
  unfold moveR
  split
  · exact .inl rfl
  · rename_i x hx
    refine .inr (Option.map_eq_some_iff.mpr ⟨_, act_wire hx, ?_⟩)
    show Conf.mk _ _ _ (k.toLeft.arrived ++ k.toLeft.flying ++ x.2.2) =
      Conf.mk _ _ _ (k.toLeft.arrived ++ (k.toLeft.flying ++ x.2.2))
    rw [List.append_assoc]
    rfl

theorem step_ends {n : Nat} {t : Conf α β} (e : LinkEvent) {k : Link α β}
    (h : Ends (Conf.actL shutsR) (Conf.actR shutsL) n k.conf t) :
    ∃ m ≤ n, Ends (Conf.actL shutsR) (Conf.actR shutsL) m (step shutsL shutsR e k).conf t := by
  have hd := Conf.diamond (α := α) (β := β) shutsL shutsR
  cases e with
  | left =>
    show ∃ m ≤ n, Ends _ _ m (moveL shutsR k).conf t
    rcases moveL_cases shutsR k with hk | hk
    · rw [hk]
      exact ⟨n, le_rfl, h⟩
    · obtain ⟨m, rfl, hm⟩ := h.of_left hd hk
      exact ⟨m, Nat.le_succ m, hm⟩
  | right =>
    show ∃ m ≤ n, Ends _ _ m (moveR shutsL k).conf t
    rcases moveR_cases shutsL k with hk | hk
    · rw [hk]
      exact ⟨n, le_rfl, h⟩
    · obtain ⟨m, rfl, hm⟩ := h.of_right hd hk
      exact ⟨m, Nat.le_succ m, hm⟩
  | carryRight j =>
    refine ⟨n, le_rfl, ?_⟩
    show Ends _ _ n ⟨k.left, k.right, (k.toRight.carry j).all, k.toLeft.all⟩ t
    rw [Wire.carry_all]
    exact h
  | carryLeft j =>
    refine ⟨n, le_rfl, ?_⟩
    show Ends _ _ n ⟨k.left, k.right, k.toRight.all, (k.toLeft.carry j).all⟩ t
    rw [Wire.carry_all]
    exact h

theorem run_ends {n : Nat} {t : Conf α β} (es : List LinkEvent) {k : Link α β}
    (h : Ends (Conf.actL shutsR) (Conf.actR shutsL) n k.conf t) :
    ∃ m ≤ n, Ends (Conf.actL shutsR) (Conf.actR shutsL) m
      (runAll (step shutsL shutsR) es k).conf t := by
  refine runAll_invariant
    (I := fun k : Link α β => ∃ m ≤ n, Ends (Conf.actL shutsR) (Conf.actR shutsL) m k.conf t)
    (fun e k hk => ?_) es ⟨n, le_rfl, h⟩
  obtain ⟨m, hm, he⟩ := hk
  obtain ⟨m', hm', he'⟩ := step_ends e he
  exact ⟨m', hm'.trans hm, he'⟩

/-! ## the way to the end -/

theorem carry_full (w : Wire) : w.carry w.flying.length = ⟨w.all, []⟩ := by
  unfold Wire.carry Wire.all
  rw [List.take_length, List.drop_length]

theorem moveL_full (shutsL : α → Bool) {c' : Conf α β} {k : Link α β} (h : k.conf.actL shutsR = some c') :
    (runAll (step shutsL shutsR) [.carryLeft k.toLeft.flying.length, .left] k).conf = c' := by
  obtain ⟨x, hx, rfl⟩ := Option.map_eq_some_iff.mp h
  show (moveL shutsR { k with toLeft := k.toLeft.carry k.toLeft.flying.length }).conf = _
  rw [carry_full]
  unfold moveL
  have hx' : k.left.act (k.right.closed shutsR && ([] : Bytes).isEmpty) k.toLeft.all = some x := by
    rw [List.isEmpty_nil, Bool.and_true]
    exact hx
  dsimp only
  rw [hx']
  show Conf.mk x.1 k.right (k.toRight.arrived ++ (k.toRight.flying ++ x.2.2)) (x.2.1 ++ []) =
    Conf.mk x.1 k.right (k.toRight.arrived ++ k.toRight.flying ++ x.2.2) x.2.1
  rw [List.append_assoc, List.append_nil]

theorem moveR_full (shutsR : β → Bool) {c' : Conf α β} {k : Link α β} (h : k.conf.actR shutsL = some c') :
    (runAll (step shutsL shutsR) [.carryRight k.toRight.flying.length, .right] k).conf = c' := by
  obtain ⟨x, hx, rfl⟩ := Option.map_eq_some_iff.mp h
  show (moveR shutsL { k with toRight := k.toRight.carry k.toRight.flying.length }).conf = _
  rw [carry_full]
  unfold moveR
  have hx' : k.right.act (k.left.closed shutsL && ([] : Bytes).isEmpty) k.toRight.all = some x := by
    rw [List.isEmpty_nil, Bool.and_true]
    exact hx
  dsimp only
  rw [hx']
  show Conf.mk k.left x.1 (x.2.1 ++ []) (k.toLeft.arrived ++ (k.toLeft.flying ++ x.2.2)) =
    Conf.mk k.left x.1 x.2.1 (k.toLeft.arrived ++ k.toLeft.flying ++ x.2.2)
  rw [List.append_assoc, List.append_nil]

theorem reach_end {n : Nat} {c t : Conf α β} (h : Ends (Conf.actL shutsR) (Conf.actR shutsL) n c t) :
    ∀ {k : Link α β}, k.conf = c → ∃ es, (runAll (step shutsL shutsR) es k).conf = t := by
  induction h with
  | stop hl hr => exact fun hk => ⟨[], hk⟩
  | left h he ih =>
    intro k hk
    subst hk
    obtain ⟨es, hes⟩ := ih (moveL_full shutsL h)
    exact ⟨_ ++ es, by rw [runAll_append]; exact hes⟩
  | right h he ih =>
    intro k hk
    subst hk
    obtain ⟨es, hes⟩ := ih (moveR_full shutsR h)
    exact ⟨_ ++ es, by rw [runAll_append]; exact hes⟩

theorem left_done {n : Nat} {c t : Conf α β} (h : Ends (Conf.actL shutsR) (Conf.actR shutsL) n c t)
    {a : α} (ha : c.left = .done a) : t.left = .done a := by
  induction h with
  | stop hl hr => exact ha
  | left h he ih =>
    obtain ⟨x, hx, rfl⟩ := Option.map_eq_some_iff.mp h
    rw [ha] at hx
    cases hx
  | right h he ih =>
    obtain ⟨x, hx, rfl⟩ := Option.map_eq_some_iff.mp h
    exact ih ha

theorem right_done {n : Nat} {c t : Conf α β} (h : Ends (Conf.actL shutsR) (Conf.actR shutsL) n c t)
    {b : β} (hb : c.right = .done b) : t.right = .done b := by
  induction h with
  | stop hl hr => exact hb
  | left h he ih =>
    obtain ⟨x, hx, rfl⟩ := Option.map_eq_some_iff.mp h
    exact ih hb
  | right h he ih =>
    obtain ⟨x, hx, rfl⟩ := Option.map_eq_some_iff.mp h
    rw [hb] at hx
    cases hx

/-- **One complete run decides all**: after any schedule the same end can still be reached, and an end
that has returned has returned what it returns there. -/
theorem confluent {t : Conf α β} {k : Link α β} (h : Settles shutsL shutsR k.conf t)
    (es : List LinkEvent) :
    (∃ fs, (runAll (step shutsL shutsR) (es ++ fs) k).conf = t) ∧
      (∀ a, (runAll (step shutsL shutsR) es k).left = .done a → t.left = .done a) ∧
      (∀ b, (runAll (step shutsL shutsR) es k).right = .done b → t.right = .done b) := by
  obtain ⟨n, hn⟩ := h
  obtain ⟨m, -, hm⟩ := run_ends es hn
  refine ⟨?_, fun a ha => left_done hm ha, fun b hb => right_done hm hb⟩
  obtain ⟨fs, hfs⟩ := reach_end hm rfl
  exact ⟨fs, by rw [runAll_append]; exact hfs⟩

end Link
end

end Go
