import BillVpn.Front.QueuedPacketConn

/-!
# The two copiers of a UDP session

`pipePacket` runs `copyPacketData` twice: DOWN from the packet queue to the app, UP from the app
to the network.  Each sets the read deadline of its source before it reads, and of its
destination after it wrote: so a packet sent up is to keep the read of the queue alive.  The read
in progress does not see it.

* `Pipe`, `PipeEvent.step`   the queue with the two copiers, in any order;
* `remote_run`               the queue of a session takes the steps of a run of the queue;
* `oneWayFlow_ends`          with nothing received, the session stops listening `timeout` after its
                             read began, however often the app sends;
* `queue_deadline`           when the deadline in force is kept, and what is kept always.
-/

set_option linter.unusedVariables false

namespace Bill
open Go

/-! ## the session -/

inductive CopyAt where
  /-- before `src.SetReadDeadline` -/
  | setSrc
  | readSrc
  /-- in that call of `ReadFrom` of the queue -/
  | reading (id : Nat)
  | writeDst
  /-- before `dst.SetReadDeadline` -/
  | setDst
  | ended
deriving DecidableEq, Repr

structure Pipe where
  remote : QueuedPacketConn
  timeout : Int
  /-- `copyPacketData(origin, remote, nil, timeout)` -/
  down : CopyAt := .setSrc
  /-- `copyPacketData(remote, origin, to, timeout)` -/
  up : CopyAt := .setSrc
  made : Nat := 0

inductive PipeEvent where
  /-- the clock, the base connection, a sender, or a step of a call -/
  | remote (e : QueueEvent)
  /-- the next step of a copier; `ok` is what its other end answers -/
  | down (ok : Bool)
  | up (ok : Bool)
deriving DecidableEq, Repr

def QueueEvent.ofCopier : QueueEvent → Bool
  | .setReadDeadline _ | .readFrom _ _ => true
  | _ => false

namespace Pipe

/-- `SetReadDeadline(time.Now().Add(timeout))` -/
def extend (s : Pipe) : QueueEvent := .setReadDeadline (some (s.remote.now + s.timeout))

/-- what `ReadFrom` returned: the filter drops a packet from elsewhere and reads again -/
def answered (dest : Dest) (s : Pipe) (id : Nat) : CopyAt :=
  match s.remote.calls id with
  | some ⟨_, .returned (.packet p)⟩ => if p.addr.text = dest.text then .writeDst else .readSrc
  | some ⟨_, .returned .timeout⟩ => .ended
  | some ⟨_, .returned .errClosed⟩ => .ended
  | _ => .reading id

def downNext (dest : Dest) (ok : Bool) (s : Pipe) : CopyAt :=
  match s.down with
  | .setSrc => .readSrc
  | .readSrc => .reading s.made
  | .reading id => s.answered dest id
  | .writeDst => if ok then .setDst else .ended
  | .setDst => .setSrc
  | .ended => .ended

def upNext (ok : Bool) (s : Pipe) : CopyAt :=
  match s.up with
  | .setSrc => .readSrc
  | .readSrc => if ok then .writeDst else .ended
  | .reading id => .reading id
  | .writeDst => if ok then .setDst else .ended
  | .setDst => .setSrc
  | .ended => .ended

end Pipe

def PipeEvent.effect : PipeEvent → Pipe → List QueueEvent
  | .remote e, s => if e.ofCopier then [] else [e]
  | .down _, s =>
    match s.down with
    | .setSrc => [s.extend]
    | .readSrc => [.readFrom s.made maxSegmentSize]
    | _ => []
  | .up _, s =>
    match s.up with
    | .setDst => [s.extend]
    | _ => []

def PipeEvent.step (dest : Dest) (e : PipeEvent) (s : Pipe) : Pipe :=
  let remote := runAll QueueEvent.step (e.effect s) s.remote
  match e with
  | .remote _ => { s with remote := remote }
  | .down ok =>
    { s with
      remote := remote
      down := s.downNext dest ok
      made := if s.down = .readSrc then s.made + 1 else s.made }
  | .up ok => { s with remote := remote, up := s.upNext ok }

/-! ## the queue of a session -/

theorem step_remote (dest : Dest) (e : PipeEvent) (s : Pipe) :
    (e.step dest s).remote = runAll QueueEvent.step (e.effect s) s.remote := by
  cases e <;> rfl

def queueEvents (dest : Dest) (es : List PipeEvent) (s : Pipe) : List QueueEvent :=
  collect (PipeEvent.step dest) PipeEvent.effect es s

/-- **A session takes its queue through a run of the queue.** -/
theorem remote_run (dest : Dest) (es : List PipeEvent) (s : Pipe) :
    (runAll (PipeEvent.step dest) es s).remote
      = runAll QueueEvent.step (queueEvents dest es s) s.remote := by
  induction es generalizing s with
  | nil => rfl
  | cons e es ih =>
    show (runAll (PipeEvent.step dest) es (e.step dest s)).remote
      = runAll QueueEvent.step (e.effect s ++ queueEvents dest es (e.step dest s)) s.remote
    rw [runAll_append, ih, step_remote]

/-! ## a flow that only sends -/

def newPipe (timeout : Int) : Pipe := { remote := newQueuedPacketConn 0, timeout := timeout }

def opening : List PipeEvent :=
  [.down true, .down true, .remote (.call 0 .getReadDeadline), .remote (.call 0 .timeUntil),
   .remote (.call 0 .newTimer)]

def sendAfter (gap : Nat) : List PipeEvent :=
  [.up true, .remote (.tick gap), .up true, .up true, .up true]

/-- nothing comes back, the app sends after each gap, and the timer fires -/
def oneWayFlow (gaps : List Nat) : List PipeEvent :=
  opening ++ gaps.flatMap sendAfter ++ [.remote (.call 0 .timerFires), .down true]

/-- a call that is left alone waits until the deadline it found -/
theorem read_blocks {s : QueuedPacketConn} {t : Int} (id size : Nat)
    (hid : s.calls id = none) (ht : s.readDeadline = some t) (hnow : s.now < t) :
    runAll QueueEvent.step [.readFrom id size, .call id .getReadDeadline, .call id .timeUntil,
      .call id .newTimer] s
      = { s with calls := Function.update s.calls id (some ⟨size, .blocked (some t)⟩) } := by
  have hwait : ¬ t - s.now ≤ 0 := by omega
  have hsum : s.now + (t - s.now) = t := by omega
  simp [QueueEvent.step, QueuedPacketConn.callStep, hid, ht, ReadAt.next, ReadAt.takes, hwait, hsum]

/-- the session while the read of the queue waits for its timer -/
def listening (timeout now : Int) (deadline : Option Int) : Pipe where
  remote :=
    { now := now
      readDeadline := deadline
      calls := Function.update (fun _ => none) 0 (some ⟨maxSegmentSize, .blocked (some timeout)⟩) }
  timeout := timeout
  down := .reading 0
  made := 1

theorem opening_run (dest : Dest) {timeout : Int} (ht : 0 < timeout) :
    runAll (PipeEvent.step dest) opening (newPipe timeout) = listening timeout 0 (some timeout) := by
  have hremote := read_blocks (s := { readDeadline := some (0 + timeout) }) 0 maxSegmentSize
    rfl rfl (by show (0 : Int) < 0 + timeout; omega)
  have h : runAll (PipeEvent.step dest) opening (newPipe timeout)
      = { remote := runAll QueueEvent.step [.readFrom 0 maxSegmentSize, .call 0 .getReadDeadline,
            .call 0 .timeUntil, .call 0 .newTimer] { readDeadline := some (0 + timeout) }
          timeout := timeout, down := .reading 0, made := 1 } := rfl
  rw [h, hremote, Int.zero_add]
  rfl

theorem sendAfter_run (dest : Dest) (timeout now : Int) (deadline : Option Int) (gap : Nat) :
    runAll (PipeEvent.step dest) (sendAfter gap) (listening timeout now deadline)
      = listening timeout (now + gap) (some (now + gap + timeout)) := rfl

theorem sends_run (dest : Dest) (timeout now : Int) (deadline : Option Int) (gaps : List Nat) :
    runAll (PipeEvent.step dest) (gaps.flatMap sendAfter) (listening timeout now deadline)
      = listening timeout (now + gaps.sum)
        (if gaps = [] then deadline else some (now + gaps.sum + timeout)) := by
  induction gaps generalizing now deadline with
  | nil => simp
  | cons gap gaps ih =>
    rw [List.flatMap_cons, runAll_append, sendAfter_run, ih]
    have hsum : now + gap + (gaps.sum : Nat) = now + ((gap :: gaps).sum : Nat) := by
      rw [List.sum_cons]
      push_cast
      omega
    rw [hsum, if_neg (List.cons_ne_nil _ _)]
    split_ifs with hg
    · subst hg
      simp
    · rfl

theorem flow_before_timer (dest : Dest) {gaps : List Nat} (hgaps : gaps ≠ [])
    (hsum : 0 < gaps.sum) :
    runAll (PipeEvent.step dest) (opening ++ gaps.flatMap sendAfter) (newPipe gaps.sum)
      = listening gaps.sum gaps.sum (some (gaps.sum + gaps.sum)) := by
  rw [runAll_append, opening_run dest (by exact_mod_cast hsum), sends_run, if_neg hgaps,
    Int.zero_add]

/-- **However often the app sends, a session that hears nothing stops listening once the timer of its
read fires**, with the deadline in force as far ahead as ever. -/
theorem oneWayFlow_ends (dest : Dest) {gaps : List Nat} (hgaps : gaps ≠ []) (hsum : 0 < gaps.sum) :
    let s := runAll (PipeEvent.step dest) (oneWayFlow gaps) (newPipe gaps.sum)
    s.down = .ended ∧ s.remote.now = gaps.sum ∧
      s.remote.readDeadline = some (gaps.sum + gaps.sum : Int) := by
  intro s
  have hs : s = runAll (PipeEvent.step dest) [.remote (.call 0 .timerFires), .down true]
      (listening gaps.sum gaps.sum (some (gaps.sum + gaps.sum))) := by
    show runAll _ (oneWayFlow gaps) _ = _
    rw [oneWayFlow, runAll_append, flow_before_timer dest hgaps hsum]
  rw [hs]
  refine ⟨?_, rfl, rfl⟩
  simp [PipeEvent.step, PipeEvent.effect, QueueEvent.ofCopier, listening, QueueEvent.step,
    QueuedPacketConn.callStep, ReadAt.next, ReadAt.takes, Pipe.downNext, Pipe.answered]

theorem oneWayFlow_not_honoured (dest : Dest) {gaps : List Nat} (hgaps : gaps ≠ [])
    (hsum : 0 < gaps.sum) :
    ¬ Along QueueEvent.step Honoured (queueEvents dest (oneWayFlow gaps) (newPipe gaps.sum))
      (newQueuedPacketConn 0) := by
  intro h
  have hbefore := flow_before_timer dest hgaps hsum
  unfold queueEvents oneWayFlow at h
  rw [collect_append, along_append] at h
  have hremote := remote_run dest (opening ++ gaps.flatMap sendAfter) (newPipe gaps.sum)
  rw [hbefore] at hremote h
  unfold queueEvents at hremote
  have hlast := h.2
  rw [show (newPipe gaps.sum).remote = newQueuedPacketConn 0 from rfl] at hremote
  rw [← hremote] at hlast
  obtain ⟨r, hr, hle⟩ := hlast.1 ⟨0, .timerFires, ⟨maxSegmentSize, .blocked (some gaps.sum)⟩, rfl,
    rfl, nofun, if_pos le_rfl⟩
  cases hr
  have hle' : (gaps.sum + gaps.sum : Int) ≤ gaps.sum := hle
  omega

def udpSessionTimeout : Int := 60 * 10 ^ 9

def halfMinutes : List Nat := [30 * 10 ^ 9, 30 * 10 ^ 9]

theorem readFrom_extended :
    (let s := runAll (PipeEvent.step ⟨.v4 0xc0000201, 443⟩) (oneWayFlow halfMinutes)
        (newPipe udpSessionTimeout)
     s.down = .ended ∧ s.remote.now = 60 * 10 ^ 9 ∧
       s.remote.readDeadline = some (120 * 10 ^ 9)) ∧
    ¬ Along QueueEvent.step Honoured
      (queueEvents ⟨.v4 0xc0000201, 443⟩ (oneWayFlow halfMinutes) (newPipe udpSessionTimeout))
      (newQueuedPacketConn 0) := by
  have hgaps : halfMinutes ≠ [] := List.cons_ne_nil _ _
  have hsum : 0 < halfMinutes.sum := by decide
  have htimeout : (halfMinutes.sum : Int) = udpSessionTimeout := by decide
  have hends := oneWayFlow_ends ⟨.v4 0xc0000201, 443⟩ hgaps hsum
  have hnot := oneWayFlow_not_honoured ⟨.v4 0xc0000201, 443⟩ hgaps hsum
  rw [htimeout] at hends hnot
  exact ⟨hends, hnot⟩

/-! ## when the deadline in force is kept -/

/-- **The deadline of the packet queue.**  Its timeouts are those of the deadline in force in every
run in which no `SetReadDeadline` moves it past a call in progress; after any run, they are from now
on iff it covers the calls in progress; and in every run packets come out in the order they went
in, each to one call. -/
theorem queue_deadline (now : Int) :
    (∀ es, Along QueueEvent.step Unextended es (newQueuedPacketConn now) →
      Along QueueEvent.step Honoured es (newQueuedPacketConn now)) ∧
    (∀ es, (∀ fs, NoSet fs →
        Along QueueEvent.step Honoured fs (runAll QueueEvent.step es (newQueuedPacketConn now))) ↔
      Covered (runAll QueueEvent.step es (newQueuedPacketConn now))) ∧
    ∀ es, QueueDelivers now es :=
  ⟨fun es h => (covered_new now).run h, fun es => safe_iff_covered _, queue_delivers now⟩

def leftAlone : List QueueEvent :=
  [.setReadDeadline (some 60), .readFrom 0 1500, .call 0 .getReadDeadline, .call 0 .timeUntil,
   .call 0 .newTimer, .tick 60, .call 0 .timerFires]

theorem queue_deadline_kept :
    (runAll QueueEvent.step leftAlone (newQueuedPacketConn 0)).calls 0
      = some ⟨1500, .returned .timeout⟩ ∧
    Along QueueEvent.step Unextended leftAlone (newQueuedPacketConn 0) ∧
    Along QueueEvent.step Honoured leftAlone (newQueuedPacketConn 0) ∧
    QueueDelivers 0 leftAlone := by
  have halone : Along QueueEvent.step Unextended leftAlone (newQueuedPacketConn 0) :=
    ⟨fun _ _ _ h => (nomatch h), trivial, trivial, trivial, trivial, trivial, trivial, trivial⟩
  exact ⟨by decide, halone, (queue_deadline 0).1 leftAlone halone, (queue_deadline 0).2.2 leftAlone⟩

end Bill
