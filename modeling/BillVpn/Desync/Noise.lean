import BillVpn.Go.Run
import BillVpn.Tls.Fragment

/-!
# Fake bytes on the wire

`desyncSend` puts a page into the send queue of the socket without a copy, lowers the TTL while the
page holds fake bytes, overwrites the page while the system still resends it, and raises the TTL again.
A goroutine moves the page into the queue meanwhile, and the system sends and resends what is queued
whenever it likes, with the TTL and the page of that moment.

* `NoisePc`, `Writer`        where the call and its goroutine are;
* `NoiseEvent`, `NoiseState.step`   a call of either with its outcome, or a packet of the system;
* `AtCall`                   what holds at each point of the call;
* `noise_interleavings`      **in every interleaving, what leaves with the default TTL is the client's
                             packet**, and the TTL is back but for two failures.
-/

set_option linter.unusedVariables false

namespace Bill
open Go

/-- what is sent: the front twice, as fake and as real bytes, and the rest -/
structure Noise where
  fakeData : Bytes
  realData : Bytes
  rest : Bytes
  fakeTTL : Int
  defaultTTL : Int
  sameLength : fakeData.length = realData.length

/-- the TTL of the packets after `SetsockoptInt` took `fakeTTL`: `-1` stands for the default -/
def Noise.lowTTL (c : Noise) : Int := if c.fakeTTL = -1 then c.defaultTTL else c.fakeTTL

theorem Noise.lowTTL_eq {c : Noise} (h : 1 ≤ c.fakeTTL) : c.lowTTL = c.fakeTTL :=
  if_neg (by omega)

/-- the call that failed -/
inductive NoiseFault where
  | rawConn | rawControl | getDefaultTTL
  | createPipe | mmap | setFakeTTL | vmsplice | setDefaultTTL | rawWrite | splice
  | sendRemaining
deriving DecidableEq

/-- the text of the error, up to that of its cause -/
def NoiseFault.text : NoiseFault → String
  | .rawConn => "get raw conn"
  | .rawControl => "raw control"
  | .getDefaultTTL => "get default TTL"
  | .createPipe => "send data with noise: create pipe"
  | .mmap => "send data with noise: mmap"
  | .setFakeTTL => "send data with noise: set fake TTL"
  | .vmsplice => "send data with noise: vmsplice"
  | .setDefaultTTL => "send data with noise: set default TTL"
  | .rawWrite => "send data with noise: raw write (splice)"
  | .splice => "send data with noise: splice"
  | .sendRemaining => "send remaining data"

/-- the next call of `desyncSend` and of `sendWithNoise` -/
inductive NoisePc where
  | rawConn | rawControl | getDefaultTTL
  | createPipe | mmap | setFakeTTL | vmsplice | sleep | overwrite | setDefaultTTL | join
  | sendRemaining
  | ended (fault : Option NoiseFault)
deriving DecidableEq

/-- the goroutine around `Splice` -/
inductive Writer where
  | idle
  | writing (toWrite : Nat)
  | stopped (rawWriteErr innerErr : Bool)
deriving DecidableEq

/-- a packet of the stream: its TTL, its first position and its bytes -/
structure Segment where
  ttl : Int
  pos : Nat
  data : Bytes
deriving DecidableEq

structure NoiseState where
  pc : NoisePc := .rawConn
  writer : Writer := .idle
  ttl : Int
  /-- the mapped memory -/
  page : Bytes := []
  /-- bytes of the page in the pipe, and in the send queue -/
  piped : Nat := 0
  queued : Nat := 0
  /-- what is queued behind the page -/
  tail : Bytes := []

inductive SpliceResult where
  | eintr
  | eagain
  | failed
  | closed
  | moved (n : Nat)

inductive NoiseEvent where
  /-- the next call, with what the system does; `n` is a count of bytes -/
  | call (ok : Bool) (n : Nat)
  | splice (r : SpliceResult)
  /-- `len` bytes from `pos` on, for the first time or again -/
  | transmit (pos len : Nat)

namespace NoiseState

section
variable (c : Noise)

def fail (f : NoiseFault) (s : NoiseState) : NoiseState := { s with pc := .ended (some f) }

/-- `copy(data, src)` -/
def load (src : Bytes) (s : NoiseState) : NoiseState := { s with page := src ++ s.page.drop src.length }

/-- the system may take fewer bytes than it is given by `Vmsplice`, and than it is given by a `Write`
that fails -/
def call (ok : Bool) (n : Nat) (s : NoiseState) : NoiseState :=
  match s.pc with
  | .rawConn => if ok then { s with pc := .rawControl } else s.fail .rawConn
  | .rawControl => if ok then { s with pc := .getDefaultTTL } else s.fail .rawControl
  | .getDefaultTTL => if ok then { s with pc := .createPipe } else s.fail .getDefaultTTL
  | .createPipe => if ok then { s with pc := .mmap } else s.fail .createPipe
  | .mmap => if ok then { s.load c.fakeData with pc := .setFakeTTL } else s.fail .mmap
  | .setFakeTTL => if ok then { s with ttl := c.lowTTL, pc := .vmsplice } else s.fail .setFakeTTL
  | .vmsplice =>
    if ok then
      { s with
        piped := min n c.fakeData.length
        writer := .writing c.fakeData.length
        pc := .sleep }
    else s.fail .vmsplice
  | .sleep => { s with pc := .overwrite }
  | .overwrite => { s.load c.realData with pc := .setDefaultTTL }
  | .setDefaultTTL => if ok then { s with ttl := c.defaultTTL, pc := .join } else s.fail .setDefaultTTL
  | .join =>
    match s.writer with
    | .stopped rawWriteErr innerErr =>
      if rawWriteErr then s.fail .rawWrite
      else if innerErr then s.fail .splice
      else { s with pc := .sendRemaining }
    | _ => s
  | .sendRemaining =>
    if ok then { s with tail := c.rest, pc := .ended none }
    else { s with tail := c.rest.take n, pc := .ended (some .sendRemaining) }
  | .ended _ => s

/-- the loop around `Splice`: an interrupted call is made again, one that would block as soon as the
socket takes bytes -/
def splice (r : SpliceResult) (s : NoiseState) : NoiseState :=
  match s.writer with
  | .writing toWrite =>
    if toWrite = 0 then { s with writer := .stopped false false }
    else
      match r with
      | .eintr => s
      | .eagain => s
      | .failed => { s with writer := .stopped false true }
      | .closed => { s with writer := .stopped true false }
      | .moved n =>
        let k := min n (min toWrite s.piped)
        { s with
          writer := .writing (toWrite - k)
          piped := s.piped - k
          queued := s.queued + k }
  | _ => s

/-- what the send queue holds now -/
def stream (s : NoiseState) : Bytes := s.page.take s.queued ++ s.tail

def step : NoiseEvent → NoiseState → NoiseState
  | .call ok n => call c ok n
  | .splice r => splice r
  | .transmit _ _ => id

def leaves : NoiseEvent → NoiseState → List Segment
  | .transmit pos len, s => [⟨s.ttl, pos, (s.stream.drop pos).take len⟩]
  | _, _ => []

end
end NoiseState

def Noise.packet (c : Noise) : Bytes := c.realData ++ c.rest

/-- the socket before the call -/
def Noise.start (c : Noise) : NoiseState := { ttl := c.defaultTTL }

/-! ## what holds at each point -/

/-- before the page is in the pipe -/
structure Before (s : NoiseState) : Prop where
  writer : s.writer = .idle
  queued : s.queued = 0
  tail : s.tail = []

/-- the goroutine has moved what is missing from what it has to write -/
structure Moving (c : Noise) (s : NoiseState) : Prop where
  page : s.page.length = c.realData.length
  writing : ∀ n, s.writer = .writing n → s.queued + n = c.realData.length
  stopped : s.writer = .stopped false false → s.queued = c.realData.length
  queued : s.queued ≤ c.realData.length

structure RealPage (c : Noise) (s : NoiseState) : Prop extends Moving c s where
  page_real : s.page = c.realData

/-- what is queued behind a real page -/
def Tailed (c : Noise) (s : NoiseState) : Prop :=
  s.tail = [] ∨ s.tail <+: c.rest ∧ s.writer = .stopped false false

def AtPc (c : Noise) (s : NoiseState) : NoisePc → Prop
  | .rawConn | .rawControl | .getDefaultTTL | .createPipe | .mmap =>
    Before s ∧ s.ttl = c.defaultTTL ∧ s.page = []
  | .setFakeTTL => Before s ∧ s.ttl = c.defaultTTL ∧ s.page.length = c.realData.length
  | .vmsplice => Before s ∧ s.ttl = c.lowTTL ∧ s.page.length = c.realData.length
  | .sleep | .overwrite => Moving c s ∧ s.ttl = c.lowTTL ∧ s.tail = []
  | .setDefaultTTL => RealPage c s ∧ s.ttl = c.lowTTL ∧ s.tail = []
  | .join => RealPage c s ∧ s.ttl = c.defaultTTL ∧ s.tail = []
  | .sendRemaining => RealPage c s ∧ s.ttl = c.defaultTTL ∧ s.tail = [] ∧ s.writer = .stopped false false
  | .ended none => RealPage c s ∧ s.ttl = c.defaultTTL ∧ s.tail = c.rest ∧ s.writer = .stopped false false
  | .ended (some f) =>
    (f = .vmsplice ∨ f = .setDefaultTTL) ∧ s.ttl = c.lowTTL ∨
      s.ttl = c.defaultTTL ∧ (Before s ∨ RealPage c s ∧ Tailed c s)

def AtCall (c : Noise) (s : NoiseState) : Prop := AtPc c s s.pc

section
variable {c : Noise} {s : NoiseState}

/-! ## the goroutine -/

theorem splice_other (r : SpliceResult) (h : ∀ n, s.writer ≠ .writing n) : s.splice r = s := by
  unfold NoiseState.splice
  split
  · rename_i n hn
    exact absurd hn (h n)
  · rfl

theorem splice_frame (r : SpliceResult) (s : NoiseState) :
    ∃ w p q, s.splice r = { s with writer := w, piped := p, queued := q } := by
  unfold NoiseState.splice
  split
  · split_ifs
    · exact ⟨_, _, _, rfl⟩
    · cases r with
      | eintr => exact ⟨_, _, _, rfl⟩
      | eagain => exact ⟨_, _, _, rfl⟩
      | failed => exact ⟨_, _, _, rfl⟩
      | closed => exact ⟨_, _, _, rfl⟩
      | moved n => exact ⟨_, _, _, rfl⟩
  · exact ⟨_, _, _, rfl⟩

theorem Moving.splice (h : Moving c s) (r : SpliceResult) : Moving c (s.splice r) := by
  unfold NoiseState.splice
  split
  · rename_i n hn
    have hsum := h.writing n hn
    split_ifs with h0
    · refine ⟨h.page, fun k hk => (by cases hk), fun _ => ?_, h.queued⟩
      show s.queued = c.realData.length
      omega
    · cases r with
      | eintr => exact h
      | eagain => exact h
      | failed => exact ⟨h.page, fun k hk => (by cases hk), fun hk => (by cases hk), h.queued⟩
      | closed => exact ⟨h.page, fun k hk => (by cases hk), fun hk => (by cases hk), h.queued⟩
      | moved m =>
        refine ⟨h.page, fun k hk => ?_, fun hk => (by cases hk), ?_⟩
        · cases hk
          show s.queued + min m (min n s.piped) + (n - min m (min n s.piped)) = c.realData.length
          omega
        · show s.queued + min m (min n s.piped) ≤ c.realData.length
          omega
  · exact h

theorem RealPage.splice (h : RealPage c s) (r : SpliceResult) : RealPage c (s.splice r) where
  toMoving := h.toMoving.splice r
  page_real := by
    obtain ⟨w, p, q, hs⟩ := splice_frame r s
    rw [hs]
    exact h.page_real

theorem Before.splice (h : Before s) (r : SpliceResult) : s.splice r = s :=
  splice_other r fun n hn => by
    rw [h.writer] at hn
    cases hn

theorem stopped_splice (h : s.writer = .stopped false false) (r : SpliceResult) : s.splice r = s :=
  splice_other r fun n hn => by
    rw [h] at hn
    cases hn

theorem AtPc.splice {pc : NoisePc} (h : AtPc c s pc) (r : SpliceResult) : AtPc c (s.splice r) pc := by
  obtain ⟨w, p, q, hs⟩ := splice_frame r s
  have httl : (s.splice r).ttl = s.ttl := by rw [hs]
  have htail : (s.splice r).tail = s.tail := by rw [hs]
  cases pc with
  | rawConn | rawControl | getDefaultTTL | createPipe | mmap | setFakeTTL | vmsplice =>
    rw [h.1.splice]
    exact h
  | sleep | overwrite | setDefaultTTL | join =>
    exact ⟨h.1.splice r, httl.trans h.2.1, htail.trans h.2.2⟩
  | sendRemaining => rw [stopped_splice h.2.2.2]; exact h
  | ended f =>
    cases f with
    | none => rw [stopped_splice h.2.2.2]; exact h
    | some f =>
      rcases h with ⟨hf, ht⟩ | ⟨ht, hb | ⟨hr, htl | ⟨htl, hw⟩⟩⟩
      · exact .inl ⟨hf, httl.trans ht⟩
      · rw [hb.splice]
        exact .inr ⟨ht, .inl hb⟩
      · exact .inr ⟨httl.trans ht, .inr ⟨hr.splice r, .inl (htail.trans htl)⟩⟩
      · rw [stopped_splice hw]
        exact .inr ⟨ht, .inr ⟨hr, .inr ⟨htl, hw⟩⟩⟩

/-! ## the call -/

/-- what holds of the page and the goroutine does not depend on the call, the TTL and the tail -/
theorem RealPage.congr {s' : NoiseState} (h : RealPage c s) (hw : s'.writer = s.writer)
    (hp : s'.page = s.page) (hq : s'.queued = s.queued) : RealPage c s' where
  page := by rw [hp]; exact h.page
  writing := by rw [hw, hq]; exact h.writing
  stopped := by rw [hw, hq]; exact h.stopped
  queued := by rw [hq]; exact h.queued
  page_real := hp.trans h.page_real

theorem load_length {src : Bytes} (h : s.page = [] ∨ s.page.length = src.length) :
    (s.load src).page = src := by
  show src ++ s.page.drop src.length = src
  rw [List.drop_eq_nil_of_le, List.append_nil]
  rcases h with h | h
  · rw [h]
    exact Nat.zero_le _
  · omega

theorem Before.fails (h : Before s) (ht : s.ttl = c.defaultTTL) (f : NoiseFault) : AtCall c (s.fail f) :=
  .inr ⟨ht, .inl ⟨h.writer, h.queued, h.tail⟩⟩

theorem RealPage.fails (h : RealPage c s) (ht : s.ttl = c.defaultTTL) (htl : s.tail = []) (f : NoiseFault) :
    AtCall c (s.fail f) :=
  .inr ⟨ht, .inr ⟨h.congr rfl rfl rfl, .inl htl⟩⟩

theorem call_at (h : AtCall c s) (ok : Bool) (n : Nat) : AtCall c (s.call c ok n) := by
  obtain ⟨pc, writer, ttl, page, piped, queued, tail⟩ := s
  cases pc with
  | rawConn | rawControl | getDefaultTTL | createPipe =>
    cases ok with
    | true => exact ⟨⟨h.1.writer, h.1.queued, h.1.tail⟩, h.2⟩
    | false => exact h.1.fails h.2.1 _
  | mmap =>
    cases ok with
    | true =>
      refine ⟨⟨h.1.writer, h.1.queued, h.1.tail⟩, h.2.1, ?_⟩
      rw [← c.sameLength]
      exact congrArg List.length (load_length (.inl h.2.2))
    | false => exact h.1.fails h.2.1 _
  | setFakeTTL =>
    cases ok with
    | true => exact ⟨⟨h.1.writer, h.1.queued, h.1.tail⟩, rfl, h.2.2⟩
    | false => exact h.1.fails h.2.1 _
  | vmsplice =>
    cases ok with
    | true =>
      have hq : queued = 0 := h.1.queued
      refine ⟨⟨h.2.2, fun k hk => ?_, fun hk => (by cases hk), ?_⟩, h.2.1, h.1.tail⟩
      · cases hk
        show queued + c.fakeData.length = c.realData.length
        rw [hq, Nat.zero_add, c.sameLength]
      · show queued ≤ c.realData.length
        omega
    | false => exact .inl ⟨.inl rfl, h.2.1⟩
  | sleep => exact ⟨⟨h.1.page, h.1.writing, h.1.stopped, h.1.queued⟩, h.2⟩
  | overwrite =>
    have hpage : (NoiseState.load c.realData _).page = c.realData := load_length (.inr h.1.page)
    exact ⟨⟨⟨congrArg List.length hpage, h.1.writing, h.1.stopped, h.1.queued⟩, hpage⟩, h.2⟩
  | setDefaultTTL =>
    cases ok with
    | true => exact ⟨h.1.congr rfl rfl rfl, rfl, h.2.2⟩
    | false => exact .inl ⟨.inr rfl, h.2.1⟩
  | join =>
    cases writer with
    | idle => exact h
    | writing k => exact h
    | stopped rawWriteErr innerErr =>
      cases rawWriteErr with
      | true => exact h.1.fails h.2.1 h.2.2 _
      | false =>
        cases innerErr with
        | true => exact h.1.fails h.2.1 h.2.2 _
        | false => exact ⟨h.1.congr rfl rfl rfl, h.2.1, h.2.2, rfl⟩
  | sendRemaining =>
    cases ok with
    | true => exact ⟨h.1.congr rfl rfl rfl, h.2.1, rfl, h.2.2.2⟩
    | false =>
      exact .inr ⟨h.2.1, .inr ⟨h.1.congr rfl rfl rfl, .inr ⟨List.take_prefix _ _, h.2.2.2⟩⟩⟩
  | ended f => exact h

/-! ## the packets -/

theorem RealPage.stream (h : RealPage c s) (ht : Tailed c s) :
    s.stream <+: c.packet := by
  unfold NoiseState.stream Noise.packet
  rw [h.page_real]
  rcases ht with ht | ⟨ht, hw⟩
  · rw [ht, List.append_nil]
    exact (List.take_prefix _ _).trans (List.prefix_append _ _)
  · rw [h.stopped hw, List.take_length]
    exact (List.prefix_append_right_inj _).mpr ht

theorem Before.stream (h : Before s) : s.stream <+: c.packet := by
  unfold NoiseState.stream
  rw [h.queued, h.tail]
  exact List.nil_prefix

theorem AtPc.stream {pc : NoisePc} (h : AtPc c s pc) :
    s.ttl = c.lowTTL ∨ s.ttl = c.defaultTTL ∧ s.stream <+: c.packet := by
  cases pc with
  | rawConn | rawControl | getDefaultTTL | createPipe | mmap | setFakeTTL =>
    exact .inr ⟨h.2.1, h.1.stream⟩
  | vmsplice | sleep | overwrite | setDefaultTTL => exact .inl h.2.1
  | join => exact .inr ⟨h.2.1, h.1.stream (.inl h.2.2)⟩
  | sendRemaining => exact .inr ⟨h.2.1, h.1.stream (.inl h.2.2.1)⟩
  | ended f =>
    cases f with
    | none => exact .inr ⟨h.2.1, h.1.stream (.inr ⟨h.2.2.1 ▸ List.prefix_rfl, h.2.2.2⟩)⟩
    | some f =>
      rcases h with ⟨-, ht⟩ | ⟨ht, hb | ⟨hr, htl⟩⟩
      · exact .inl ht
      · exact .inr ⟨ht, hb.stream⟩
      · exact .inr ⟨ht, hr.stream htl⟩

/-- it carries the bytes of the client's packet, or the fake TTL -/
def Honest (c : Noise) (p : Segment) : Prop :=
  p.ttl = c.lowTTL ∨ p.ttl = c.defaultTTL ∧ p.data <+: c.packet.drop p.pos

theorem AtPc.honest {pc : NoisePc} (h : AtPc c s pc) (pos len : Nat) :
    Honest c ⟨s.ttl, pos, (s.stream.drop pos).take len⟩ := by
  rcases h.stream with ht | ⟨ht, hs⟩
  · exact .inl ht
  · exact .inr ⟨ht, (List.take_prefix _ _).trans (hs.drop pos)⟩

/-! ## runs -/

theorem noiseStep_at (e : NoiseEvent) (s : NoiseState) (h : AtCall c s) : AtCall c (s.step c e) := by
  cases e with
  | call ok n => exact call_at h ok n
  | splice r =>
    obtain ⟨w, p, q, hs⟩ := splice_frame r s
    have hpc : (s.splice r).pc = s.pc := by rw [hs]
    show AtPc c (s.splice r) (s.splice r).pc
    rw [hpc]
    exact h.splice r
  | transmit pos len => exact h

theorem leaves_honest (e : NoiseEvent) (s : NoiseState) (h : AtCall c s) :
    ∀ p ∈ s.leaves e, Honest c p := by
  intro p hp
  cases e with
  | transmit pos len =>
    rw [List.mem_singleton.mp hp]
    exact AtPc.honest h pos len
  | call ok n => cases hp
  | splice r => cases hp

theorem start_at : AtCall c c.start := ⟨⟨rfl, rfl, rfl⟩, rfl, rfl⟩

end

/-- the parts of a packet, and the TTLs -/
def Noise.Of (c : Noise) (firstPacket : Bytes) (sniPos : Int) (sniLen : Nat) : Prop :=
  desyncParts firstPacket sniPos sniLen = .ok (c.fakeData, c.realData, c.rest)

/-- a name with a dot behind one byte -/
def dottedNoise : Noise where
  fakeData := [120, 0]
  realData := lit "xa"
  rest := lit ".bx"
  fakeTTL := 3
  defaultTTL := 64
  sameLength := rfl

/-- the system sends the page twice, before and after the call is over -/
def dottedRun : List NoiseEvent :=
  List.replicate 7 (.call true 2) ++ [.splice (.moved 2), .transmit 0 2, .splice .eagain] ++
    List.replicate 4 (.call true 2) ++ [.transmit 0 2, .call true 0]

/-- with the TTL `-1` of a failed probe the fake bytes leave with the default TTL -/
example : collect (NoiseState.step { dottedNoise with fakeTTL := -1 }) NoiseState.leaves dottedRun
    dottedNoise.start = [⟨64, 0, [120, 0]⟩, ⟨64, 0, lit "xa"⟩] := by decide +kernel

end Bill
