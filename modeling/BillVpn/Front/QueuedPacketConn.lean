import BillVpn.Front.UdpFlow

/-!
# The read deadline of the packet queue

`ReadFrom` of `queuedPacketConn` asks for the read deadline ONCE, makes a timer of it and then
waits for a packet, the timer or the end of the connection.  `SetReadDeadline` only writes the
field, so a read in progress keeps the timer it has.  Any number of calls are in progress here,
each with the place it has reached, and the clock, the calls, the senders and `SetReadDeadline`
take their steps in any order.  Times are integers: a wait beyond the range of `time.Duration`, which
`time.Until` cuts short, is not modelled.

* `ReadCall`, `QueueEvent.step`   the connection and its steps;
* `givesUpAt`            the earliest moment a call may still return a timeout;
* `Covered.run`          without a `SetReadDeadline` that moves the deadline past a call in progress,
                         every timeout is one of the deadline in force;
* `safe_iff_covered`     the timeouts to come are such iff the deadline in force is set and not
                         after that moment, for every call in progress;
* `queue_delivers`       packets come out in the order they went in, each to one call.
-/

set_option linter.unusedVariables false

namespace Bill
open Go

/-! ## the connection -/

inductive ReadResult where
  | packet (p : Packet)
  | timeout
  | errClosed
deriving DecidableEq, Repr

inductive ReadAt where
  /-- before `getReadDeadline` -/
  | begun
  /-- after it, with the deadline it gave: `none` is the zero time -/
  | sampled (t : Option Int)
  /-- after `time.Until`, with the wait it gave -/
  | waiting (wait : Int)
  /-- in the `select`, with the moment its timer fires: `none` is the nil channel -/
  | blocked (timer : Option Int)
  | returned (r : ReadResult)
deriving DecidableEq, Repr

structure ReadCall where
  size : Nat
  pos : ReadAt
deriving DecidableEq, Repr

/-- the goroutine `pumpBaseReads` -/
inductive Pump where
  | reading
  | holding (p : Packet)
  | ended
deriving DecidableEq, Repr

structure QueuedPacketConn where
  now : Int := 0
  readDeadline : Option Int := none
  packets : List Packet := []
  closed : Bool := false
  pump : Pump := .reading
  calls : Nat → Option ReadCall := fun _ => none

inductive ReadStep where
  | getReadDeadline
  | timeUntil
  | newTimer
  | receive
  | timerFires
  | seeClosed
deriving DecidableEq, Repr

inductive QueueEvent where
  | tick (d : Nat)
  | setReadDeadline (t : Option Int)
  /-- the base connection returns a packet to the pump, or an error -/
  | baseRead (p : Packet)
  | baseFails
  | pumpSend
  | pumpStops
  | enqueuePacket (p : Packet)
  | close
  | readFrom (id size : Nat)
  | call (id : Nat) (k : ReadStep)
deriving DecidableEq, Repr

/-- `n := copy(p, packet.payload)` -/
def Packet.copied (p : Packet) (size : Nat) : Packet := { p with payload := p.payload.take size }

/-- one step of `ReadFrom`; a step out of place changes nothing -/
def ReadAt.next (s : QueuedPacketConn) (size : Nat) : ReadStep → ReadAt → ReadAt
  | .getReadDeadline, .begun => .sampled s.readDeadline
  | .timeUntil, .sampled none => .blocked none
  | .timeUntil, .sampled (some t) =>
    if t - s.now ≤ 0 then .returned .timeout else .waiting (t - s.now)
  | .newTimer, .waiting wait => .blocked (some (s.now + wait))
  | .receive, .blocked timer =>
    match s.packets with
    | [] => .blocked timer
    | p :: _ => .returned (.packet (p.copied size))
  | .timerFires, .blocked (some timer) =>
    if timer ≤ s.now then .returned .timeout else .blocked (some timer)
  | .seeClosed, .blocked timer => if s.closed then .returned .errClosed else .blocked timer
  | _, pos => pos

def ReadAt.takes (s : QueuedPacketConn) : ReadStep → ReadAt → Option Packet
  | .receive, .blocked _ => s.packets.head?
  | _, _ => none

namespace QueuedPacketConn

/-- `pc.packets <- packet`, which waits while the queue is full -/
def send (p : Packet) (s : QueuedPacketConn) : QueuedPacketConn :=
  if s.packets.length < queueSize then { s with packets := s.packets ++ [p] } else s

def callStep (id : Nat) (k : ReadStep) (s : QueuedPacketConn) : QueuedPacketConn :=
  match s.calls id with
  | none => s
  | some c =>
    { s with
      packets := s.packets.drop (c.pos.takes s k).toList.length
      calls := Function.update s.calls id (some { c with pos := c.pos.next s c.size k }) }

end QueuedPacketConn

def QueueEvent.step : QueueEvent → QueuedPacketConn → QueuedPacketConn
  | .tick d, s => { s with now := s.now + d }
  | .setReadDeadline t, s => { s with readDeadline := t }
  | .baseRead p, s => if s.pump = .reading then { s with pump := .holding p } else s
  | .baseFails, s => if s.pump = .reading then { s with pump := .ended } else s
  | .pumpSend, s =>
    match s.pump with
    | .holding p =>
      if s.packets.length < queueSize then { s.send p with pump := .reading } else s
    | _ => s
  | .pumpStops, s =>
    match s.pump with
    | .holding _ => if s.closed then { s with pump := .ended } else s
    | _ => s
  | .enqueuePacket p, s => s.send p
  | .close, s => { s with closed := true }
  | .readFrom id size, s =>
    if s.calls id = none then
      { s with calls := Function.update s.calls id (some ⟨size, .begun⟩) } else s
  | .call id k, s => s.callStep id k

def newQueuedPacketConn (now : Int) : QueuedPacketConn := { now := now }

/-! ## what one event changes -/

/-- the events that only move packets: of the pump, of the senders and of `Close` -/
def QueueEvent.Inner : QueueEvent → Prop
  | .baseRead _ | .baseFails | .pumpSend | .pumpStops | .enqueuePacket _ | .close => True
  | _ => False

theorem send_frame (p : Packet) (s : QueuedPacketConn) :
    (s.send p).now = s.now ∧ (s.send p).readDeadline = s.readDeadline ∧
      (s.send p).calls = s.calls := by
  unfold QueuedPacketConn.send
  split_ifs <;> exact ⟨rfl, rfl, rfl⟩

theorem inner_frame {e : QueueEvent} (he : e.Inner) (s : QueuedPacketConn) :
    (e.step s).now = s.now ∧ (e.step s).readDeadline = s.readDeadline ∧
      (e.step s).calls = s.calls := by
  cases e with
  | baseRead p =>
    simp only [QueueEvent.step]
    split_ifs <;> exact ⟨rfl, rfl, rfl⟩
  | baseFails =>
    simp only [QueueEvent.step]
    split_ifs <;> exact ⟨rfl, rfl, rfl⟩
  | pumpSend =>
    simp only [QueueEvent.step]
    split
    · rename_i p hp
      split_ifs
      · exact send_frame p s
      · exact ⟨rfl, rfl, rfl⟩
    · exact ⟨rfl, rfl, rfl⟩
  | pumpStops =>
    simp only [QueueEvent.step]
    split
    · split_ifs <;> exact ⟨rfl, rfl, rfl⟩
    · exact ⟨rfl, rfl, rfl⟩
  | enqueuePacket p => exact send_frame p s
  | close => exact ⟨rfl, rfl, rfl⟩
  | _ => exact he.elim

theorem step_calls {e : QueueEvent} {s : QueuedPacketConn} {id : Nat} {c : ReadCall}
    (h : (e.step s).calls id = some c) :
    c.pos = .begun ∨
    (∃ b k, e = .call id k ∧ s.calls id = some b ∧ c = { b with pos := b.pos.next s b.size k }) ∨
    s.calls id = some c := by
  by_cases hinner : e.Inner
  · rw [(inner_frame hinner s).2.2] at h
    exact .inr (.inr h)
  cases e with
  | readFrom j size =>
    simp only [QueueEvent.step] at h
    split_ifs at h with hj
    · rcases update_eq_some h with ⟨-, hc⟩ | ⟨-, hc⟩
      · cases hc
        exact .inl rfl
      · exact .inr (.inr hc)
    · exact .inr (.inr h)
  | call j k =>
    simp only [QueueEvent.step, QueuedPacketConn.callStep] at h
    cases hj : s.calls j with
    | none =>
      rw [hj] at h
      exact .inr (.inr h)
    | some b =>
      rw [hj] at h
      rcases update_eq_some h with ⟨rfl, hc⟩ | ⟨-, hc⟩
      · cases hc
        exact .inr (.inl ⟨b, k, rfl, hj, rfl⟩)
      · exact .inr (.inr hc)
  | tick d => exact .inr (.inr h)
  | setReadDeadline t => exact .inr (.inr h)
  | _ => exact absurd trivial hinner

theorem callStep_frame (id : Nat) (k : ReadStep) (s : QueuedPacketConn) :
    (s.callStep id k).now = s.now ∧ (s.callStep id k).readDeadline = s.readDeadline := by
  unfold QueuedPacketConn.callStep
  cases s.calls id <;> exact ⟨rfl, rfl⟩

/-! ## when a call gives up -/

/-- the earliest moment at which a call can still return a timeout, from now on -/
def ReadAt.givesUpAt (now : Int) : ReadAt → Option Int
  | .sampled (some t) => some (max now t)
  | .waiting wait => some (max now (now + wait))
  | .blocked (some timer) => some (max now timer)
  | _ => none

def TimesOut (e : QueueEvent) (s : QueuedPacketConn) : Prop :=
  ∃ id k c, e = .call id k ∧ s.calls id = some c ∧ c.pos ≠ .returned .timeout ∧
    c.pos.next s c.size k = .returned .timeout

/-- a timeout is one of the deadline in force: it is set, and not after the present moment -/
def Honoured (e : QueueEvent) (s : QueuedPacketConn) : Prop :=
  TimesOut e s → ∃ r, s.readDeadline = some r ∧ r ≤ s.now

/-- the deadline in force is set, and not after the moment at which any call gives up -/
def Covered (s : QueuedPacketConn) : Prop :=
  ∀ id c x, s.calls id = some c → c.pos.givesUpAt s.now = some x →
    ∃ r, s.readDeadline = some r ∧ r ≤ x

theorem givesUpAt_of_timeout {s : QueuedPacketConn} {pos : ReadAt} {size : Nat} {k : ReadStep}
    (hpos : pos ≠ .returned .timeout) (h : pos.next s size k = .returned .timeout) :
    pos.givesUpAt s.now = some s.now := by
  unfold ReadAt.next at h
  split at h
  · cases h
  · cases h
  · rename_i t
    split_ifs at h with ht
    show some (max s.now t) = some s.now
    rw [max_eq_left (by omega)]
  · cases h
  · split at h <;> cases h
  · rename_i timer
    split_ifs at h with ht
    show some (max s.now timer) = some s.now
    rw [max_eq_left ht]
  · split_ifs at h
    cases h
  · exact absurd h hpos

/-- a step of a call: either it has just read the deadline in force, or it gives up no earlier
than before -/
theorem givesUpAt_next {s : QueuedPacketConn} {pos : ReadAt} {size : Nat} {k : ReadStep} {x : Int}
    (h : (pos.next s size k).givesUpAt s.now = some x) :
    (∃ r, s.readDeadline = some r ∧ r ≤ x) ∨ pos.givesUpAt s.now = some x := by
  unfold ReadAt.next at h
  split at h
  · cases hd : s.readDeadline with
    | none => rw [hd] at h; cases h
    | some r =>
      rw [hd] at h
      cases h
      exact .inl ⟨r, rfl, le_max_right _ _⟩
  · cases h
  · rename_i t
    split_ifs at h with ht
    · cases h
    · have hx : max s.now (s.now + (t - s.now)) = x := Option.some.inj h
      refine .inr ?_
      show some (max s.now t) = some x
      rw [← hx, show s.now + (t - s.now) = t by omega]
  · exact .inr h
  · split at h
    · exact .inr h
    · cases h
  · split_ifs at h
    · cases h
    · exact .inr h
  · split_ifs at h
    · cases h
    · exact .inr h
  · exact .inr h

theorem givesUpAt_tick {now : Int} {d : Nat} {pos : ReadAt} {x : Int}
    (h : pos.givesUpAt (now + d) = some x) : ∃ y, pos.givesUpAt now = some y ∧ y ≤ x := by
  unfold ReadAt.givesUpAt at h ⊢
  split at h
  · cases h
    exact ⟨_, rfl, max_le_max (by omega) le_rfl⟩
  · cases h
    exact ⟨_, rfl, max_le_max (by omega) (by omega)⟩
  · cases h
    exact ⟨_, rfl, max_le_max (by omega) le_rfl⟩
  · cases h

/-! ## one event, and a run -/

/-- a deadline may be set to `t` now: no call gives up before it -/
def Coverable (t : Option Int) (s : QueuedPacketConn) : Prop :=
  ∀ id c x, s.calls id = some c → c.pos.givesUpAt s.now = some x → ∃ r, t = some r ∧ r ≤ x

/-- the event is not a `SetReadDeadline` that moves the deadline past a call in progress -/
def Unextended : QueueEvent → QueuedPacketConn → Prop
  | .setReadDeadline t, s => Coverable t s
  | _, _ => True

theorem Covered.honoured {s : QueuedPacketConn} (h : Covered s) (e : QueueEvent) :
    Honoured e s := by
  rintro ⟨id, k, c, -, hc, hpos, hnext⟩
  exact h id c s.now hc (givesUpAt_of_timeout hpos hnext)

theorem Covered.step {e : QueueEvent} {s : QueuedPacketConn} (he : Unextended e s)
    (h : Covered s) : Covered (e.step s) := by
  by_cases hinner : e.Inner
  · obtain ⟨hnow, hdeadline, hcalls⟩ := inner_frame hinner s
    unfold Covered
    rw [hnow, hdeadline, hcalls]
    exact h
  intro id c x hc hx
  cases e with
  | setReadDeadline t => exact he id c x hc hx
  | tick d =>
    obtain ⟨y, hy, hle⟩ := givesUpAt_tick hx
    obtain ⟨r, hr, hry⟩ := h id c y hc hy
    exact ⟨r, hr, hry.trans hle⟩
  | readFrom j size =>
    have hframe : (QueueEvent.readFrom j size |>.step s).now = s.now ∧
        (QueueEvent.readFrom j size |>.step s).readDeadline = s.readDeadline := by
      simp only [QueueEvent.step]
      split_ifs <;> exact ⟨rfl, rfl⟩
    rw [hframe.1] at hx
    rw [hframe.2]
    rcases step_calls hc with hbegun | ⟨b, k, he', -⟩ | hsame
    · rw [hbegun] at hx
      cases hx
    · cases he'
    · exact h id c x hsame hx
  | call j k =>
    obtain ⟨hnow, hdeadline⟩ := callStep_frame j k s
    rw [show (QueueEvent.call j k |>.step s) = s.callStep j k from rfl, hnow] at hx
    rw [show (QueueEvent.call j k |>.step s) = s.callStep j k from rfl, hdeadline]
    rcases step_calls hc with hbegun | ⟨b, k', -, hb, rfl⟩ | hsame
    · rw [hbegun] at hx
      cases hx
    · exact (givesUpAt_next hx).elim (fun hr => hr) (fun hold => h id b x hb hold)
    · exact h id c x hsame hx
  | _ => exact absurd trivial hinner

/-- **A run in which no `SetReadDeadline` passes a call in progress has no early timeout.** -/
theorem Covered.run {es : List QueueEvent} : ∀ {s : QueuedPacketConn}, Covered s →
    Along QueueEvent.step Unextended es s → Along QueueEvent.step Honoured es s := by
  induction es with
  | nil => exact fun _ _ => trivial
  | cons e es ih => exact fun h hes => ⟨h.honoured e, ih (h.step hes.1) hes.2⟩

theorem covered_new (now : Int) : Covered (newQueuedPacketConn now) := fun _ _ _ h => nomatch h

/-! ## the condition is exact -/

def NoSet (es : List QueueEvent) : Prop := ∀ t, .setReadDeadline t ∉ es

theorem NoSet.unextended {es : List QueueEvent} (hes : NoSet es) (s : QueuedPacketConn) :
    Along QueueEvent.step Unextended es s := by
  induction es generalizing s with
  | nil => trivial
  | cons e es ih =>
    refine ⟨?_, ih (fun t h => hes t (List.mem_cons_of_mem _ h)) _⟩
    cases e with
    | setReadDeadline t => exact absurd List.mem_cons_self (hes t)
    | _ => trivial

theorem deadline_of_late {s : QueuedPacketConn} {id : Nat} {c : ReadCall} {d : Nat} {k : ReadStep}
    (hc : s.calls id = some c) (hpos : c.pos ≠ .returned .timeout)
    (hnext : c.pos.next { s with now := s.now + d } c.size k = .returned .timeout)
    (h : Along QueueEvent.step Honoured [.tick d, .call id k] s) :
    ∃ r, s.readDeadline = some r ∧ r ≤ s.now + d :=
  h.2.1 ⟨id, k, c, rfl, hc, hpos, hnext⟩

theorem deadline_of_timer {s : QueuedPacketConn} {id size : Nat} {timer : Int} {d : Nat}
    (hc : s.calls id = some ⟨size, .blocked (some timer)⟩) (hd : timer ≤ s.now + d)
    (h : Along QueueEvent.step Honoured [.tick d, .call id .timerFires] s) :
    ∃ r, s.readDeadline = some r ∧ r ≤ s.now + d :=
  deadline_of_late (k := .timerFires) hc (nofun) (if_pos hd) h

/-- **The timeouts to come are those of the deadline in force iff it covers the calls in progress**,
as long as nobody sets it again. -/
theorem safe_iff_covered (s : QueuedPacketConn) :
    (∀ es, NoSet es → Along QueueEvent.step Honoured es s) ↔ Covered s := by
  constructor
  · intro h id c x hc hx
    obtain ⟨size, pos⟩ := c
    -- the call, left alone until `x`, times out then
    match pos, hx with
    | .sampled (some t), hx =>
      have hd : s.now + ((t - s.now).toNat : Int) = max s.now t := by omega
      have hlate := deadline_of_late (d := (t - s.now).toNat) (k := .timeUntil) hc (nofun)
        (if_pos (by dsimp only; omega)) (h _ (by simp [NoSet]))
      rw [hd, Option.some.inj hx] at hlate
      exact hlate
    | .waiting wait, hx =>
      have hd : s.now + (wait.toNat : Int) = max s.now (s.now + wait) := by omega
      have hs : QueueEvent.step (.call id .newTimer) s = { s with
          packets := s.packets.drop 0
          calls := Function.update s.calls id (some ⟨size, .blocked (some (s.now + wait))⟩) } := by
        simp only [QueueEvent.step, QueuedPacketConn.callStep, hc]
        rfl
      have hrun := (h [.call id .newTimer, .tick wait.toNat, .call id .timerFires]
        (by simp [NoSet])).2
      rw [hs] at hrun
      have hlate := deadline_of_timer (Function.update_self _ _ _) (by dsimp only; omega) hrun
      rw [← Option.some.inj hx, ← hd]
      exact hlate
    | .blocked (some timer), hx =>
      have hd : s.now + ((timer - s.now).toNat : Int) = max s.now timer := by omega
      have hlate := deadline_of_timer (d := (timer - s.now).toNat) hc (by omega)
        (h _ (by simp [NoSet]))
      rw [hd, Option.some.inj hx] at hlate
      exact hlate
  · intro h es hes
    exact h.run (hes.unextended s)

/-! ## delivery -/

def QueueEvent.puts : QueueEvent → QueuedPacketConn → List Packet
  | .enqueuePacket p, s => if s.packets.length < queueSize then [p] else []
  | .pumpSend, s =>
    match s.pump with
    | .holding p => if s.packets.length < queueSize then [p] else []
    | _ => []
  | _, _ => []

def QueueEvent.hands : QueueEvent → QueuedPacketConn → List (Nat × Packet)
  | .call id k, s =>
    match s.calls id with
    | none => []
    | some c => (c.pos.takes s k).toList.map fun p => (id, p)
  | _, _ => []

theorem takes_append (s : QueuedPacketConn) (k : ReadStep) (pos : ReadAt) :
    (pos.takes s k).toList ++ s.packets.drop (pos.takes s k).toList.length = s.packets := by
  unfold ReadAt.takes
  split
  · cases s.packets <;> rfl
  · rfl

theorem send_packets (p : Packet) (s : QueuedPacketConn) :
    (s.send p).packets = s.packets ++ if s.packets.length < queueSize then [p] else [] := by
  unfold QueuedPacketConn.send
  split_ifs
  · rfl
  · exact (List.append_nil _).symm

theorem hands_append (e : QueueEvent) (s : QueuedPacketConn) :
    (e.hands s).map Prod.snd ++ (e.step s).packets = s.packets ++ e.puts s := by
  have hquiet : ∀ t : QueuedPacketConn, t.packets = s.packets →
      [] ++ t.packets = s.packets ++ [] := fun t ht => by rw [ht, List.nil_append, List.append_nil]
  cases e with
  | call id k =>
    simp only [QueueEvent.hands, QueueEvent.step, QueuedPacketConn.callStep, QueueEvent.puts,
      List.append_nil]
    cases s.calls id with
    | none => rfl
    | some c =>
      have hsnd : ((c.pos.takes s k).toList.map fun p => (id, p)).map Prod.snd
          = (c.pos.takes s k).toList := by
        rw [List.map_map]
        exact List.map_id _
      show ((c.pos.takes s k).toList.map fun p => (id, p)).map Prod.snd ++ _ = _
      rw [hsnd]
      exact takes_append s k c.pos
  | enqueuePacket p => exact send_packets p s
  | pumpSend =>
    simp only [QueueEvent.hands, QueueEvent.step, QueueEvent.puts]
    cases hp : s.pump with
    | holding p =>
      dsimp only
      split_ifs with hroom
      · have h := send_packets p s
        rw [if_pos hroom] at h
        exact h
      · exact hquiet s rfl
    | _ => exact hquiet s rfl
  | pumpStops =>
    simp only [QueueEvent.hands, QueueEvent.step, QueueEvent.puts]
    cases hp : s.pump with
    | holding p =>
      dsimp only
      split_ifs <;> exact hquiet _ rfl
    | _ => exact hquiet s rfl
  | baseRead p =>
    simp only [QueueEvent.hands, QueueEvent.step, QueueEvent.puts]
    split_ifs <;> exact hquiet _ rfl
  | baseFails =>
    simp only [QueueEvent.hands, QueueEvent.step, QueueEvent.puts]
    split_ifs <;> exact hquiet _ rfl
  | readFrom id size =>
    simp only [QueueEvent.hands, QueueEvent.step, QueueEvent.puts]
    split_ifs <;> exact hquiet _ rfl
  | tick d => exact hquiet _ rfl
  | setReadDeadline t => exact hquiet _ rfl
  | close => exact hquiet _ rfl

theorem step_returned {e : QueueEvent} {s : QueuedPacketConn} {id size : Nat} {r : ReadResult}
    (h : s.calls id = some ⟨size, .returned r⟩) :
    (e.step s).calls id = some ⟨size, .returned r⟩ := by
  by_cases hinner : e.Inner
  · rw [(inner_frame hinner s).2.2, h]
  cases e with
  | readFrom j n =>
    simp only [QueueEvent.step]
    split_ifs with hj
    · have hne : id ≠ j := fun hid => by rw [hid, hj] at h; cases h
      exact (Function.update_of_ne hne _ _).trans h
    · exact h
  | call j k =>
    simp only [QueueEvent.step, QueuedPacketConn.callStep]
    by_cases hj : id = j
    · subst hj
      rw [h]
      refine (Function.update_self _ _ _).trans ?_
      cases k <;> rfl
    · cases s.calls j with
      | none => exact h
      | some c => exact (Function.update_of_ne hj _ _).trans h
  | tick d => exact h
  | setReadDeadline t => exact h
  | _ => exact absurd trivial hinner

theorem hands_returns {e : QueueEvent} {s : QueuedPacketConn} {id : Nat} {p : Packet}
    (h : (id, p) ∈ e.hands s) :
    ∃ size timer, s.calls id = some ⟨size, .blocked timer⟩ ∧
      (e.step s).calls id = some ⟨size, .returned (.packet (p.copied size))⟩ := by
  cases e with
  | call j k =>
    simp only [QueueEvent.hands] at h
    cases hj : s.calls j with
    | none => rw [hj] at h; cases h
    | some c =>
      rw [hj] at h
      obtain ⟨q, hq, heq⟩ := List.mem_map.mp h
      cases heq
      obtain ⟨size, pos⟩ := c
      rw [Option.mem_toList] at hq
      match k, pos, hq with
      | .receive, .blocked timer, hq =>
        obtain ⟨rest, hrest⟩ := List.head?_eq_some_iff.mp hq
        refine ⟨size, timer, hj, ?_⟩
        simp only [QueueEvent.step, QueuedPacketConn.callStep, hj, Function.update_self,
          ReadAt.next, hrest]
  | _ => cases h

theorem run_returned {es : List QueueEvent} {id size : Nat} {r : ReadResult} :
    ∀ {s : QueuedPacketConn}, s.calls id = some ⟨size, .returned r⟩ →
      (runAll QueueEvent.step es s).calls id = some ⟨size, .returned r⟩ := by
  induction es with
  | nil => exact fun h => h
  | cons e es ih => exact fun h => ih (step_returned h)

theorem hands_nodup (e : QueueEvent) (s : QueuedPacketConn) :
    ((e.hands s).map Prod.fst).Nodup := by
  cases e with
  | call id k =>
    simp only [QueueEvent.hands]
    cases s.calls id with
    | none => exact List.nodup_nil
    | some c =>
      cases ht : c.pos.takes s k with
      | none => simp [ht]
      | some p => simp [ht]
  | _ => exact List.nodup_nil

/-- the calls that a run hands packets to had not returned before it, are all different, and have
returned what they were handed -/
theorem hands_run (es : List QueueEvent) (s : QueuedPacketConn) :
    (∀ id p, (id, p) ∈ collect QueueEvent.step QueueEvent.hands es s →
      (∀ size r, s.calls id ≠ some ⟨size, .returned r⟩) ∧
      ∃ size, (runAll QueueEvent.step es s).calls id
        = some ⟨size, .returned (.packet (p.copied size))⟩) ∧
    ((collect QueueEvent.step QueueEvent.hands es s).map Prod.fst).Nodup := by
  induction es generalizing s with
  | nil => exact ⟨fun _ _ h => (nomatch h), List.nodup_nil⟩
  | cons e es ih =>
    obtain ⟨hlater, hnodup⟩ := ih (e.step s)
    constructor
    · intro id p h
      rcases List.mem_append.mp h with hnow | hthen
      · obtain ⟨size, timer, hbefore, hafter⟩ := hands_returns hnow
        have hend : (runAll QueueEvent.step es (e.step s)).calls id = _ := run_returned hafter
        refine ⟨fun n r hr => ?_, size, hend⟩
        rw [hbefore] at hr
        cases hr
      · obtain ⟨hnot, hres⟩ := hlater id p hthen
        exact ⟨fun n r hr => hnot n r (step_returned hr), hres⟩
    · show ((e.hands s ++ collect QueueEvent.step QueueEvent.hands es (e.step s)).map _).Nodup
      rw [List.map_append]
      refine List.Nodup.append (hands_nodup e s) hnodup fun id hnow hthen => ?_
      obtain ⟨⟨i, p⟩, hp, rfl⟩ := List.mem_map.mp hnow
      obtain ⟨⟨j, q⟩, hq, hj⟩ := List.mem_map.mp hthen
      obtain ⟨size, timer, -, hafter⟩ := hands_returns hp
      cases hj
      exact (hlater i q hq).1 _ _ hafter

/-- a call waits at an open queue with `p` in front, and its timer has not fired -/
structure Awaits (s : QueuedPacketConn) (id size : Nat) (timer : Option Int) (p : Packet) : Prop where
  opened : s.closed = false
  front : s.packets.head? = some p
  waits : s.calls id = some ⟨size, .blocked timer⟩
  early : ∀ t, timer = some t → s.now < t

theorem Awaits.step {s : QueuedPacketConn} {id size : Nat} {timer : Option Int} {p : Packet}
    (h : Awaits s id size timer p) (k : ReadStep) :
    (QueueEvent.step (.call id k) s).calls id
      = some ⟨size, if k = .receive then .returned (.packet (p.copied size)) else .blocked timer⟩ := by
  obtain ⟨rest, hrest⟩ := List.head?_eq_some_iff.mp h.front
  simp only [QueueEvent.step, QueuedPacketConn.callStep, h.waits, Function.update_self]
  cases k with
  | receive => simp only [ReadAt.next, hrest, if_true]
  | timerFires =>
    cases timer with
    | none => rfl
    | some t =>
      have ht : ¬ t ≤ s.now := not_le.mpr (h.early t rfl)
      simp only [ReadAt.next, if_neg ht]
      rfl
  | seeClosed =>
    simp only [ReadAt.next, h.opened]
    rfl
  | _ => rfl

/-- what a run does with the packets -/
structure QueueDelivers (now : Int) (es : List QueueEvent) : Prop where
  /-- what was handed out, then what is still queued, is what was put in, in this order -/
  order : (collect QueueEvent.step QueueEvent.hands es (newQueuedPacketConn now)).map Prod.snd
      ++ (runAll QueueEvent.step es (newQueuedPacketConn now)).packets
    = collect QueueEvent.step QueueEvent.puts es (newQueuedPacketConn now)
  /-- each call is handed at most one packet -/
  once : ((collect QueueEvent.step QueueEvent.hands es (newQueuedPacketConn now)).map Prod.fst).Nodup
  returns : ∀ id p, (id, p) ∈ collect QueueEvent.step QueueEvent.hands es (newQueuedPacketConn now) →
    ∃ size, (runAll QueueEvent.step es (newQueuedPacketConn now)).calls id
      = some ⟨size, .returned (.packet (p.copied size))⟩
  /-- until `Close`, a call that waits in time returns the packet in front and nothing else -/
  front : ∀ id size timer p,
    Awaits (runAll QueueEvent.step es (newQueuedPacketConn now)) id size timer p → ∀ k,
    (runAll QueueEvent.step (es ++ [.call id k]) (newQueuedPacketConn now)).calls id
      = some ⟨size, if k = .receive then .returned (.packet (p.copied size)) else .blocked timer⟩

theorem queue_delivers (now : Int) (es : List QueueEvent) : QueueDelivers now es where
  order := by
    rw [collect_map]
    exact collect_queue hands_append es (newQueuedPacketConn now)
  once := (hands_run es _).2
  returns := fun id p h => ((hands_run es _).1 id p h).2
  front := by
    intro id size timer p h k
    rw [runAll_append]
    exact h.step k

end Bill
