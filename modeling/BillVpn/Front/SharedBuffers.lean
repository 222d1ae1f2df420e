import BillVpn.Go.Buffers
import BillVpn.Front.UdpFlow

/-!
# Relays that share their buffers

Every TCP connection and every UDP session of the tunnel has two goroutines that copy, one for each
direction.  A goroutine takes a buffer from the allocator, reads into it, writes from it, and puts
it back: the array that held the bytes of one app holds those of another app next.

* `allocator`                  `Get` and `Put` of the allocator, as classes of capacities;
* `streamAct`, `packetAct`     `unidirectionalStream` and `copyPacketData`, one call at a time;
* `stream_step`, `packet_step` what one relay keeps, with a buffer of its own;
* `relays_share_buffers`       **in every order of the steps of all relays, each one sends what it
                               read itself, in order, and the buffers never mix**.
-/

set_option linter.unusedVariables false

namespace Bill
open Go

/-! ## the allocator -/

/-- `bits.Len32` -/
def len32 (x : Nat) : Nat := if x = 0 then 0 else x.log2 + 1

/-- `uint16(bits.Len32(uint32(size)) - 1)`, the place of the most significant bit -/
def msb (size : Nat) : Nat := (len32 (size % 2 ^ 32) + 65535) % 65536

/-- the pool that `Get(size)` asks -/
def allocatorGet (size : Nat) : Option Nat :=
  if size = 0 ∨ 65536 < size then none
  else if size = 2 ^ msb size then some (msb size)
  else some (msb size + 1)

/-- the pool that `Put(buf)` gives `buf` to; without one, `Put` returns an error -/
def allocatorPut (cap : Nat) : Option Nat :=
  if cap = 0 ∨ 65536 < cap ∨ cap ≠ 2 ^ msb cap then none else some (msb cap)

theorem msb_eq {size : Nat} (h0 : size ≠ 0) (h : size ≤ 65536) : msb size = size.log2 := by
  have hlog : size.log2 < 17 := (Nat.log2_lt h0).mpr (by omega)
  unfold msb len32
  rw [Nat.mod_eq_of_lt (show size < 2 ^ 32 by omega), if_neg h0]
  omega

theorem allocatorGet_le {size k : Nat} (h : allocatorGet size = some k) : size ≤ 2 ^ k := by
  unfold allocatorGet at h
  split at h
  · cases h
  · rename_i hs
    split at h
    · rename_i he
      rw [← Option.some.inj h]
      exact he.le
    · rw [← Option.some.inj h, msb_eq (by omega) (by omega)]
      exact Nat.lt_log2_self.le

theorem allocatorPut_eq {cap k : Nat} (h : allocatorPut cap = some k) : cap = 2 ^ k := by
  unfold allocatorPut at h
  split at h
  · cases h
  · rename_i hc
    rw [← Option.some.inj h]
    by_contra hne
    exact hc (.inr (.inr hne))

/-- the pools make arrays of the powers of two -/
def allocator : Classes where
  forSize := allocatorGet
  ofCap := allocatorPut
  capacity k := 2 ^ k
  size_le := allocatorGet_le
  cap_eq := allocatorPut_eq

theorem allocatorPut_of_get {size k : Nat} (h : allocatorGet size = some k) :
    k < 17 ∧ allocatorPut (2 ^ k) = some k := by
  have hk : k < 17 := by
    unfold allocatorGet at h
    split at h
    · cases h
    · rename_i hs
      have hlog : size.log2 < 17 := (Nat.log2_lt (by omega)).mpr (by omega)
      rw [msb_eq (by omega) (by omega)] at h
      split at h
      · cases h
        exact hlog
      · rename_i hne
        cases h
        -- with the sixteenth bit set, the size is 65536 itself
        by_contra hlt
        have h16 : size.log2 = 16 := by omega
        have hle := Nat.log2_self_le (n := size) (by omega)
        rw [h16] at hle hne
        omega
  refine ⟨hk, ?_⟩
  interval_cases k <;> decide

/-! ## the relays -/

def relayBufferSize : Nat := 20 * 2 ^ 10

inductive ReadErr where
  | eof
  | timeout
  | other (e : String)
deriving DecidableEq, Repr

inductive CopyEnd where
  /-- the source has ended or, for packets, was silent for too long -/
  | quiet
  | readErr (e : String)
  | writeErr (e : String)
  | shortWrite
deriving DecidableEq, Repr

inductive RelayPc where
  | get
  | setSrc
  | read
  /-- in `dst.Write(buf[0:nr])`, of which `nw` bytes are taken, after a read that also gave `er` -/
  | write (nr nw : Nat) (er : Option ReadErr)
  | setDst
  | put (r : CopyEnd)
  | closeRead (r : CopyEnd)
  | closeWrite (r : CopyEnd)
  | setDeadline (r : CopyEnd)
  | done (r : CopyEnd)
deriving DecidableEq, Repr

/-- what happens to a relay: its next call, or the answer of a connection -/
inductive RelayEvent where
  | go
  | read (data : Bytes) (er : Option ReadErr)
  | sent (n : Nat)
  | readFrom (data : Bytes) (src : Option Bytes) (err : Option ReadErr)
  | wrote (ew : Option String)
deriving DecidableEq, Repr

inductive Effect where
  | got (data : Bytes)
  | dropped (data : Bytes)
  | sent (data : Bytes)
  | sentTo (data : Bytes) (dst : Option Bytes)
  | closeRead
  | closeWrite
  | srcDeadline
  | dstDeadline
deriving DecidableEq, Repr

def stay (pc : RelayPc) : Use RelayPc Effect := .look pc fun _ => []

def goTo (pc : RelayPc) (out : List Effect) : Use RelayPc Effect := .look pc fun _ => out

def onGo (pc : RelayPc) (u : Use RelayPc Effect) : RelayEvent → Use RelayPc Effect
  | .go => u
  | _ => stay pc

/-- the end of a turn of `io.CopyBuffer` -/
def afterRead : Option ReadErr → RelayPc
  | none => .read
  | some .eof => .put .quiet
  | some .timeout => .put (.readErr "i/o timeout")
  | some (.other e) => .put (.readErr e)

def streamRead : RelayEvent → Use RelayPc Effect
  | .read data er =>
    -- `if nr > 0`
    if data = [] then goTo (afterRead er) []
    else
      .fill (data.take relayBufferSize) (.write (data.take relayBufferSize).length 0 er)
        [.got (data.take relayBufferSize)]
  | _ => stay .read

def streamWrite (nr nw : Nat) (er : Option ReadErr) : RelayEvent → Use RelayPc Effect
  | .sent n =>
    .look (.write nr (min (nw + n) nr) er) fun buf => [.sent (((buf.take nr).drop nw).take n)]
  | .wrote (some e) => goTo (.put (.writeErr e)) []
  | .wrote none => if nr = nw then goTo (afterRead er) [] else goTo (.put .shortWrite) []
  | _ => stay (.write nr nw er)

/-- `unidirectionalStream` -/
def streamAct (e : RelayEvent) : RelayPc → Use RelayPc Effect
  | .get => onGo .get (.get relayBufferSize .read) e
  | .read => streamRead e
  | .write nr nw er => streamWrite nr nw er e
  | .put r => onGo (.put r) (.put (.closeRead r)) e
  | .closeRead r => onGo (.closeRead r) (goTo (.closeWrite r) [.closeRead]) e
  | .closeWrite r => onGo (.closeWrite r) (goTo (.setDeadline r) [.closeWrite]) e
  | .setDeadline r => onGo (.setDeadline r) (goTo (.done r) [.dstDeadline]) e
  | pc => stay pc

/-- the filter of `symmetricNATPacketConn.ReadFrom`, where there is one -/
def fromDst (only src : Option Bytes) : Bool :=
  match only, src with
  | some dst, some f => f == dst
  | _, _ => true

/-- what `copyPacketData` does after `src.ReadFrom` -/
def packetNext (data : Bytes) : Option ReadErr → RelayPc
  | none => .write data.length 0 none
  | some (.other e) => .put (.readErr e)
  | some _ => .put .quiet

def packetRead (only : Option Bytes) : RelayEvent → Use RelayPc Effect
  | .readFrom data src err =>
    if fromDst only src then
      .fill (data.take maxSegmentSize) (packetNext (data.take maxSegmentSize) err)
        (if err = none then [.got (data.take maxSegmentSize)] else [])
    else .fill (data.take maxSegmentSize) .read [.dropped (data.take maxSegmentSize)]
  | _ => stay .read

def packetWrite (dst : Option Bytes) (nr nw : Nat) (er : Option ReadErr) :
    RelayEvent → Use RelayPc Effect
  | .wrote (some e) => goTo (.put (.writeErr e)) []
  | .wrote none => .look .setDst fun buf => [.sentTo (buf.take nr) dst]
  | _ => stay (.write nr nw er)

/-- `copyPacketData` to the address `dst`, from a source that is heard from `only` -/
def packetAct (dst only : Option Bytes) (e : RelayEvent) : RelayPc → Use RelayPc Effect
  | .get => onGo .get (.get maxSegmentSize .setSrc) e
  | .setSrc => onGo .setSrc (goTo .read [.srcDeadline]) e
  | .read => packetRead only e
  | .write nr nw er => packetWrite dst nr nw er e
  | .setDst => onGo .setDst (goTo .setSrc [.dstDeadline]) e
  | .put r => onGo (.put r) (.put (.done r)) e
  | pc => stay pc

inductive Relay where
  | stream
  | packets (dst only : Option Bytes)
deriving DecidableEq, Repr

def Relay.act (c : Relay) (e : RelayEvent) (pc : RelayPc) : Use RelayPc Effect :=
  match c with
  | .stream => streamAct e pc
  | .packets dst only => packetAct dst only e pc

/-! ## what was read and what was sent -/

def Effect.gotData : Effect → List Bytes
  | .got d => [d]
  | _ => []

def Effect.sentData : Effect → List Bytes
  | .sent d => [d]
  | _ => []

def Effect.sentPacket : Effect → List (Bytes × Option Bytes)
  | .sentTo d dst => [(d, dst)]
  | _ => []

def Effect.closes : Effect → Bool
  | .closeRead => true
  | .closeWrite => true
  | _ => false

def gotBytes (l : List Effect) : Bytes := (l.flatMap Effect.gotData).flatten
def sentBytes (l : List Effect) : Bytes := (l.flatMap Effect.sentData).flatten
def gotPackets (l : List Effect) : List Bytes := l.flatMap Effect.gotData
def sentPackets (l : List Effect) : List (Bytes × Option Bytes) := l.flatMap Effect.sentPacket

@[simp] theorem gotBytes_append (l l' : List Effect) :
    gotBytes (l ++ l') = gotBytes l ++ gotBytes l' := by simp [gotBytes]

@[simp] theorem sentBytes_append (l l' : List Effect) :
    sentBytes (l ++ l') = sentBytes l ++ sentBytes l' := by simp [sentBytes]

@[simp] theorem gotPackets_append (l l' : List Effect) :
    gotPackets (l ++ l') = gotPackets l ++ gotPackets l' := by simp [gotPackets]

@[simp] theorem sentPackets_append (l l' : List Effect) :
    sentPackets (l ++ l') = sentPackets l ++ sentPackets l' := by simp [sentPackets]

/-- nothing that was read is missing, as far as the destination has taken it -/
def CopyEnd.complete : CopyEnd → Bool
  | .quiet => true
  | .readErr _ => true
  | .writeErr _ => false
  | .shortWrite => false

/-! ## one relay with a buffer of its own -/

def Sized (n : Nat) (b : Option Bytes) : Prop := ∃ x, b = some x ∧ x.length = n

/-- the copying is over, and after it came `last` -/
def Over (r : CopyEnd) (last l : List Effect) : Prop :=
  ∃ l0, l = l0 ++ last ∧ (∀ e ∈ l0, e.closes = false) ∧ sentBytes l0 <+: gotBytes l0 ∧
    (r.complete = true → sentBytes l0 = gotBytes l0)

def StreamOk (l : List Effect) (s : RelayPc × Option Bytes) : Prop :=
  match s.1 with
  | .get => s.2 = none ∧ (∀ e ∈ l, e.closes = false) ∧ sentBytes l = gotBytes l
  | .read => Sized relayBufferSize s.2 ∧ (∀ e ∈ l, e.closes = false) ∧ sentBytes l = gotBytes l
  | .write nr nw _ => Sized relayBufferSize s.2 ∧ (∀ e ∈ l, e.closes = false) ∧
      sentBytes l ++ ((s.2.getD []).take nr).drop nw = gotBytes l
  | .put r => Sized relayBufferSize s.2 ∧ Over r [] l
  | .closeRead r => s.2 = none ∧ Over r [] l
  | .closeWrite r => s.2 = none ∧ Over r [.closeRead] l
  | .setDeadline r => s.2 = none ∧ Over r [.closeRead, .closeWrite] l
  | .done r => s.2 = none ∧ Over r [.closeRead, .closeWrite, .dstDeadline] l
  | _ => False

section
variable {l : List Effect} {b : Option Bytes} {pc : RelayPc}

theorem stay_keeps {P : List Effect → RelayPc × Option Bytes → Prop} (x : Bytes) (h : P l (pc, b)) :
    P (l ++ (stay pc).out (b.getD [])) ((stay pc).alone allocator x b) := by
  show P (l ++ []) (pc, b)
  rw [List.append_nil]
  exact h

theorem onGo_keeps {P : List Effect → RelayPc × Option Bytes → Prop} (e : RelayEvent) (x : Bytes)
    {u : Use RelayPc Effect} (h : P l (pc, b))
    (hu : P (l ++ u.out (b.getD [])) (u.alone allocator x b)) :
    P (l ++ (onGo pc u e).out (b.getD [])) ((onGo pc u e).alone allocator x b) := by
  cases e with
  | go => exact hu
  | _ => exact stay_keeps x h

theorem open_append (hl : ∀ e ∈ l, e.closes = false) {f : Effect} (hf : f.closes = false) :
    ∀ e ∈ l ++ [f], e.closes = false := by
  intro e he
  rcases List.mem_append.mp he with he | he
  · exact hl e he
  · rw [List.mem_singleton.mp he]
    exact hf

theorem fit_sized (n : Nat) (x : Bytes) : Sized n (some (fit n x)) := by
  refine ⟨_, rfl, ?_⟩
  unfold fit
  rw [List.length_append, List.length_take, List.length_replicate]
  omega

theorem Sized.fill {n : Nat} (h : Sized n b) (data : Bytes) :
    Sized n (b.map fun y => overwrite (data.take y.length) y) := by
  obtain ⟨y, rfl, hy⟩ := h
  refine ⟨_, rfl, ?_⟩
  rw [overwrite_length (by rw [List.length_take]; omega), hy]

theorem Sized.front {n : Nat} (h : Sized n b) {data : Bytes} (hd : data.length ≤ n) :
    ((b.map fun y => overwrite (data.take y.length) y).getD []).take data.length = data := by
  obtain ⟨y, rfl, hy⟩ := h
  show (overwrite (data.take y.length) y).take data.length = data
  rw [hy, List.take_of_length_le hd]
  exact List.take_left

theorem over_nil {r : CopyEnd} (hl : ∀ e ∈ l, e.closes = false) (hp : sentBytes l <+: gotBytes l)
    (hc : r.complete = true → sentBytes l = gotBytes l) : Over r [] l :=
  ⟨l, (List.append_nil l).symm, hl, hp, hc⟩

theorem Over.append {r : CopyEnd} {last : List Effect} (h : Over r last l) (more : List Effect) :
    Over r (last ++ more) (l ++ more) := by
  obtain ⟨l0, rfl, h⟩ := h
  exact ⟨l0, List.append_assoc .., h⟩

theorem afterRead_ok (er : Option ReadErr) (hb : Sized relayBufferSize b)
    (hl : ∀ e ∈ l, e.closes = false) (h : sentBytes l = gotBytes l) :
    StreamOk (l ++ []) (afterRead er, b) := by
  have hover : ∀ r, Over r [] l := fun r => over_nil hl (h ▸ List.prefix_rfl) fun _ => h
  rw [List.append_nil]
  cases er with
  | none => exact ⟨hb, hl, h⟩
  | some er => cases er <;> exact ⟨hb, hover _⟩

theorem streamRead_ok (e : RelayEvent) (x : Bytes) (h : StreamOk l (.read, b)) :
    StreamOk (l ++ (streamRead e).out (b.getD [])) ((streamRead e).alone allocator x b) := by
  obtain ⟨hb, hl, heq⟩ := h
  cases e with
  | read data er =>
    unfold streamRead
    dsimp only
    split
    · exact afterRead_ok er hb hl heq
    · have hlen : (data.take relayBufferSize).length ≤ relayBufferSize := List.length_take_le ..
      refine ⟨hb.fill _, open_append hl rfl, ?_⟩
      show sentBytes (l ++ [_]) ++ ((Option.map _ b).getD []).take _ = gotBytes (l ++ [_])
      rw [hb.front hlen, sentBytes_append, gotBytes_append, heq]
      simp [sentBytes, gotBytes, Effect.sentData, Effect.gotData]
  | _ => exact stay_keeps (P := StreamOk) x ⟨hb, hl, heq⟩

theorem drop_min (buf : Bytes) (nr nw n : Nat) :
    (buf.take nr).drop (min (nw + n) nr) = ((buf.take nr).drop nw).drop n := by
  rw [List.drop_drop]
  rcases Nat.le_total (nw + n) nr with hle | hle
  · rw [Nat.min_eq_left hle]
  · rw [Nat.min_eq_right hle, List.drop_eq_nil_of_le (List.length_take_le ..),
      List.drop_eq_nil_of_le ((List.length_take_le ..).trans hle)]

theorem streamWrite_ok (e : RelayEvent) (x : Bytes) {nr nw : Nat} {er : Option ReadErr}
    (h : StreamOk l (.write nr nw er, b)) :
    StreamOk (l ++ (streamWrite nr nw er e).out (b.getD []))
      ((streamWrite nr nw er e).alone allocator x b) := by
  have h' := h
  obtain ⟨hb, hl, heq⟩ := h
  -- what is still in the buffer was read, and not sent
  have hpre : sentBytes l <+: gotBytes l := heq ▸ List.prefix_append ..
  cases e with
  | sent n =>
    refine ⟨hb, open_append hl rfl, ?_⟩
    show sentBytes (l ++ [.sent _]) ++ ((b.getD []).take nr).drop (min (nw + n) nr)
      = gotBytes (l ++ [.sent _])
    have hsent : ∀ d, sentBytes [Effect.sent d] = d := by simp [sentBytes, Effect.sentData]
    have hgot : ∀ d, gotBytes [Effect.sent d] = [] := by simp [gotBytes, Effect.gotData]
    rw [sentBytes_append, gotBytes_append, hsent, hgot, drop_min, List.append_assoc,
      List.take_append_drop, List.append_nil]
    exact heq
  | wrote ew =>
    cases ew with
    | some e =>
      show StreamOk (l ++ []) (.put (.writeErr e), b)
      rw [List.append_nil]
      exact ⟨hb, over_nil hl hpre fun hc => Bool.noConfusion hc⟩
    | none =>
      unfold streamWrite
      dsimp only
      split
      · rename_i hn
        refine afterRead_ok er hb hl ?_
        rw [← heq, List.drop_eq_nil_of_le (hn ▸ List.length_take_le ..), List.append_nil]
      · show StreamOk (l ++ []) (.put .shortWrite, b)
        rw [List.append_nil]
        exact ⟨hb, over_nil hl hpre fun hc => Bool.noConfusion hc⟩
  | _ => exact stay_keeps (P := StreamOk) x h'

theorem stream_step (e : RelayEvent × Bytes) (l : List Effect) (s : RelayPc × Option Bytes)
    (h : StreamOk l s) : StreamOk (l ++ aloneOut Relay.stream.act e s)
      (aloneStep allocator Relay.stream.act e s) := by
  obtain ⟨pc, b⟩ := s
  obtain ⟨e, x⟩ := e
  show StreamOk (l ++ (streamAct e pc).out (b.getD [])) ((streamAct e pc).alone allocator x b)
  cases pc with
  | get =>
    refine onGo_keeps (P := StreamOk) e x h ?_
    show StreamOk (l ++ []) (.read, some (fit relayBufferSize x))
    rw [List.append_nil]
    exact ⟨fit_sized _ x, h.2⟩
  | read => exact streamRead_ok e x h
  | write nr nw er => exact streamWrite_ok e x h
  | put r =>
    refine onGo_keeps (P := StreamOk) e x h ?_
    show StreamOk (l ++ []) (.closeRead r, none)
    rw [List.append_nil]
    exact ⟨rfl, h.2⟩
  | closeRead r => exact onGo_keeps (P := StreamOk) e x h ⟨h.1, h.2.append [.closeRead]⟩
  | closeWrite r => exact onGo_keeps (P := StreamOk) e x h ⟨h.1, h.2.append [.closeWrite]⟩
  | setDeadline r => exact onGo_keeps (P := StreamOk) e x h ⟨h.1, h.2.append [.dstDeadline]⟩
  | done r => exact stay_keeps (P := StreamOk) x h
  | setSrc => exact h.elim
  | setDst => exact h.elim

/-! ## packets -/

/-- where the packets that were read are to go -/
def toSend (dst : Option Bytes) (l : List Effect) : List (Bytes × Option Bytes) :=
  (gotPackets l).map fun d => (d, dst)

/-- the copying is over; a packet that could not be sent is the last one -/
def PacketsOver (dst : Option Bytes) (r : CopyEnd) (l : List Effect) : Prop :=
  if r.complete then sentPackets l = toSend dst l else ∃ p, sentPackets l ++ [p] = toSend dst l

def PacketOk (dst : Option Bytes) (l : List Effect) (s : RelayPc × Option Bytes) : Prop :=
  match s.1 with
  | .get => s.2 = none ∧ sentPackets l = toSend dst l
  | .setSrc => Sized maxSegmentSize s.2 ∧ sentPackets l = toSend dst l
  | .read => Sized maxSegmentSize s.2 ∧ sentPackets l = toSend dst l
  | .write nr _ _ => Sized maxSegmentSize s.2 ∧
      sentPackets l ++ [((s.2.getD []).take nr, dst)] = toSend dst l
  | .setDst => Sized maxSegmentSize s.2 ∧ sentPackets l = toSend dst l
  | .put r => Sized maxSegmentSize s.2 ∧ PacketsOver dst r l
  | .done r => s.2 = none ∧ PacketsOver dst r l
  | _ => False

variable {dst only : Option Bytes}

theorem level_append (h : sentPackets l = toSend dst l) {e : Effect} (hs : e.sentPacket = [])
    (hg : e.gotData = []) : sentPackets (l ++ [e]) = toSend dst (l ++ [e]) := by
  have hsent : sentPackets [e] = [] := by simp [sentPackets, hs]
  have hgot : gotPackets [e] = [] := by simp [gotPackets, hg]
  unfold toSend at h ⊢
  rw [sentPackets_append, gotPackets_append, hsent, hgot, List.append_nil, List.append_nil]
  exact h

theorem packetRead_ok (e : RelayEvent) (x : Bytes) (h : PacketOk dst l (.read, b)) :
    PacketOk dst (l ++ (packetRead only e).out (b.getD []))
      ((packetRead only e).alone allocator x b) := by
  obtain ⟨hb, heq⟩ := h
  cases e with
  | readFrom data src err =>
    unfold packetRead
    dsimp only
    have hlen : (data.take maxSegmentSize).length ≤ maxSegmentSize := List.length_take_le ..
    generalize data.take maxSegmentSize = d at hlen ⊢
    split
    · cases err with
      | none =>
        refine ⟨hb.fill d, ?_⟩
        show sentPackets (l ++ [.got d]) ++ [(((Option.map _ b).getD []).take d.length, dst)]
          = toSend dst (l ++ [.got d])
        rw [hb.front hlen]
        unfold toSend at heq ⊢
        rw [sentPackets_append, gotPackets_append, List.map_append, heq]
        simp [sentPackets, gotPackets, Effect.sentPacket, Effect.gotData]
      | some err =>
        cases err <;>
        · show PacketOk dst (l ++ []) (.put _, _)
          rw [List.append_nil]
          exact ⟨hb.fill d, heq⟩
    · exact ⟨hb.fill d, level_append heq rfl rfl⟩
  | _ => exact stay_keeps (P := PacketOk dst) x ⟨hb, heq⟩

theorem packetWrite_ok (e : RelayEvent) (x : Bytes) {nr nw : Nat} {er : Option ReadErr}
    (h : PacketOk dst l (.write nr nw er, b)) :
    PacketOk dst (l ++ (packetWrite dst nr nw er e).out (b.getD []))
      ((packetWrite dst nr nw er e).alone allocator x b) := by
  have h' := h
  obtain ⟨hb, heq⟩ := h
  cases e with
  | wrote ew =>
    cases ew with
    | some e =>
      show PacketOk dst (l ++ []) (.put (.writeErr e), b)
      rw [List.append_nil]
      exact ⟨hb, _, heq⟩
    | none =>
      refine ⟨hb, ?_⟩
      show sentPackets (l ++ [.sentTo ((b.getD []).take nr) dst])
        = toSend dst (l ++ [.sentTo ((b.getD []).take nr) dst])
      unfold toSend at heq ⊢
      rw [sentPackets_append, gotPackets_append, List.map_append, ← heq]
      simp [sentPackets, gotPackets, Effect.sentPacket, Effect.gotData]
  | _ => exact stay_keeps (P := PacketOk dst) x h'

theorem packet_step (e : RelayEvent × Bytes) (l : List Effect) (s : RelayPc × Option Bytes)
    (h : PacketOk dst l s) : PacketOk dst (l ++ aloneOut (Relay.packets dst only).act e s)
      (aloneStep allocator (Relay.packets dst only).act e s) := by
  obtain ⟨pc, b⟩ := s
  obtain ⟨e, x⟩ := e
  show PacketOk dst (l ++ (packetAct dst only e pc).out (b.getD []))
    ((packetAct dst only e pc).alone allocator x b)
  cases pc with
  | get =>
    refine onGo_keeps (P := PacketOk dst) e x h ?_
    show PacketOk dst (l ++ []) (.setSrc, some (fit maxSegmentSize x))
    rw [List.append_nil]
    exact ⟨fit_sized _ x, h.2⟩
  | setSrc => exact onGo_keeps (P := PacketOk dst) e x h ⟨h.1, level_append h.2 rfl rfl⟩
  | read => exact packetRead_ok e x h
  | write nr nw er => exact packetWrite_ok e x h
  | setDst => exact onGo_keeps (P := PacketOk dst) e x h ⟨h.1, level_append h.2 rfl rfl⟩
  | put r =>
    refine onGo_keeps (P := PacketOk dst) e x h ?_
    show PacketOk dst (l ++ []) (.done r, none)
    rw [List.append_nil]
    exact ⟨rfl, h.2⟩
  | done r => exact stay_keeps (P := PacketOk dst) x h
  | _ => exact h.elim

end

/-! ## all relays together -/

/-- before the first connection -/
def noRelays (ι : Type) : Memory ι RelayPc where
  arrays _ := []
  made := 0
  pools _ := []
  held _ := none
  pc _ := .get
  crashed := false

theorem noRelays_owned (ι : Type) : ∃ owner, Owned allocator owner (noRelays ι) := by
  refine ⟨fun _ => .nowhere, ?_, fun _ => List.nodup_nil, ?_, ?_, fun _ _ => rfl, rfl⟩ <;>
  · intro _ s hs
    cases hs

/-- the goroutine has a buffer -/
def RelayPc.holding : RelayPc → Bool
  | .setSrc => true
  | .read => true
  | .write _ _ _ => true
  | .setDst => true
  | .put _ => true
  | _ => false

def RelayPc.over : RelayPc → Option CopyEnd
  | .put r => some r
  | .closeRead r => some r
  | .closeWrite r => some r
  | .setDeadline r => some r
  | .done r => some r
  | _ => none

/-- what a relay of bytes did, when it is at `pc` -/
structure StreamFaithful (l : List Effect) (pc : RelayPc) : Prop where
  in_order : sentBytes l <+: gotBytes l
  complete : ∀ r, pc.over = some r → r.complete = true → sentBytes l = gotBytes l
  /-- the connections are half-closed at the very end -/
  closes_last : ∀ r, pc = .done r → ∃ l0,
    l = l0 ++ [.closeRead, .closeWrite, .dstDeadline] ∧ ∀ e ∈ l0, e.closes = false

structure PacketFaithful (dst : Option Bytes) (l : List Effect) (pc : RelayPc) : Prop where
  in_order : sentPackets l <+: toSend dst l
  at_most_one : (toSend dst l).length ≤ (sentPackets l).length + 1
  complete : ∀ r, pc.over = some r → r.complete = true → sentPackets l = toSend dst l

def Relay.Faithful (c : Relay) (l : List Effect) (pc : RelayPc) : Prop :=
  match c with
  | .stream => StreamFaithful l pc
  | .packets dst _ => PacketFaithful dst l pc

section
variable {l : List Effect} {pc : RelayPc} {b : Option Bytes} {dst : Option Bytes}

theorem Over.in_order {r : CopyEnd} {last : List Effect} (h : Over r last l)
    (hs : sentBytes last = []) (hg : gotBytes last = []) :
    sentBytes l <+: gotBytes l ∧ (r.complete = true → sentBytes l = gotBytes l) := by
  obtain ⟨l0, rfl, -, hp, hc⟩ := h
  rw [sentBytes_append, gotBytes_append, hs, hg, List.append_nil, List.append_nil]
  exact ⟨hp, hc⟩

theorem StreamOk.over (h : StreamOk l (pc, b)) {r : CopyEnd} (hr : pc.over = some r) :
    sentBytes l <+: gotBytes l ∧ (r.complete = true → sentBytes l = gotBytes l) := by
  cases pc with
  | put | closeRead | closeWrite | setDeadline | done =>
    obtain rfl := Option.some.inj hr
    exact h.2.in_order rfl rfl
  | _ => cases hr

theorem StreamOk.faithful (h : StreamOk l (pc, b)) : StreamFaithful l pc where
  in_order := by
    cases hr : pc.over with
    | some r => exact (h.over hr).1
    | none =>
      cases pc with
      | get | read =>
        rw [h.2.2]
      | write nr nw er => exact h.2.2 ▸ List.prefix_append ..
      | setSrc | setDst => exact h.elim
      | _ => cases hr
  complete := fun r hr => (h.over hr).2
  closes_last := by
    rintro r rfl
    obtain ⟨-, l0, hl, hopen, -⟩ := h
    exact ⟨l0, hl, hopen⟩

theorem StreamOk.holding (h : StreamOk l (pc, b)) : b.isSome = pc.holding := by
  cases pc with
  | read | write | put =>
    obtain ⟨⟨x, rfl, -⟩, -⟩ := h
    rfl
  | setSrc | setDst => exact h.elim
  | _ =>
    obtain ⟨rfl, -⟩ := h
    rfl

theorem PacketsOver.in_order {r : CopyEnd} (h : PacketsOver dst r l) :
    sentPackets l <+: toSend dst l ∧ (toSend dst l).length ≤ (sentPackets l).length + 1 := by
  unfold PacketsOver at h
  split at h
  · rw [h]
    exact ⟨List.prefix_rfl, Nat.le_succ _⟩
  · obtain ⟨p, hp⟩ := h
    rw [← hp]
    exact ⟨List.prefix_append .., by rw [List.length_append]; rfl⟩

theorem PacketOk.sends (h : PacketOk dst l (pc, b)) :
    sentPackets l <+: toSend dst l ∧ (toSend dst l).length ≤ (sentPackets l).length + 1 := by
  cases pc with
  | put | done => exact PacketsOver.in_order h.2
  | write nr nw er =>
    rw [← h.2]
    exact ⟨List.prefix_append .., by rw [List.length_append]; rfl⟩
  | get | setSrc | read | setDst =>
    rw [h.2]
    exact ⟨List.prefix_rfl, Nat.le_succ _⟩
  | _ => exact h.elim

theorem PacketOk.faithful (h : PacketOk dst l (pc, b)) : PacketFaithful dst l pc where
  in_order := h.sends.1
  at_most_one := h.sends.2
  complete := by
    intro r hr hc
    have hover : PacketsOver dst r l := by
      cases pc with
      | put | done =>
        obtain rfl := Option.some.inj hr
        exact h.2
      | closeRead | closeWrite | setDeadline => exact h.elim
      | _ => cases hr
    unfold PacketsOver at hover
    rwa [if_pos hc] at hover

theorem PacketOk.holding (h : PacketOk dst l (pc, b)) : b.isSome = pc.holding := by
  cases pc with
  | setSrc | read | write | setDst | put =>
    obtain ⟨⟨x, rfl, -⟩, -⟩ := h
    rfl
  | get | done =>
    obtain ⟨rfl, -⟩ := h
    rfl
  | _ => exact h.elim

end

section
variable {ι : Type} [DecidableEq ι] (relay : ι → Relay)

/-- the tunnel after the events `es`, in which any number of relays take part -/
def relaysAfter (es : List (MemoryEvent ι RelayEvent)) : Memory ι RelayPc :=
  runAll (Memory.step allocator fun i => (relay i).act) es (noRelays ι)

/-- what relay `i` did in that time -/
def effectsOf (i : ι) (es : List (MemoryEvent ι RelayEvent)) : List Effect :=
  collect (Memory.step allocator fun i => (relay i).act) (Memory.outOf (fun i => (relay i).act) i)
    es (noRelays ι)

/-- two relays have never the same array, and a relay has one from `Get` to `Put` -/
structure BuffersApart (m : Memory ι RelayPc) : Prop where
  running : m.crashed = false
  apart : ∀ i j s t, i ≠ j → m.held i = some s → m.held j = some t → s.array ≠ t.array
  holding : ∀ i, (m.held i).isSome = (m.pc i).holding
  /-- `Put` will take the buffer, into one of the pools -/
  returns : ∀ i s, m.held i = some s → ∃ k, k < 17 ∧ allocatorPut s.cap = some k

theorem relay_faithful (i : ι) (es : List (MemoryEvent ι RelayEvent)) :
    (relay i).Faithful (effectsOf relay i es) ((relaysAfter relay es).pc i) ∧
      ((relaysAfter relay es).view i).2.isSome = ((relaysAfter relay es).pc i).holding := by
  unfold relaysAfter effectsOf
  have hview := Memory.view_run (fun i => (relay i).act) es i (noRelays_owned ι)
  have hout := Memory.out_run (fun i => (relay i).act) es i (noRelays_owned ι)
  rw [hout]
  show (relay i).Faithful _ (Memory.view i _).1 ∧ _ = RelayPc.holding (Memory.view i _).1
  rw [hview]
  generalize collect _ (Memory.ownOf allocator (fun i => (relay i).act) i) es (noRelays ι) = own
  cases relay i with
  | stream =>
    have h : StreamOk ([] ++ collect (aloneStep allocator Relay.stream.act) _ own _) _ :=
      collect_invariant stream_step own (s := ((noRelays ι).view i)) ⟨rfl, by simp, rfl⟩
    exact ⟨h.faithful, h.holding⟩
  | packets dst only =>
    have h : PacketOk dst ([] ++ collect (aloneStep allocator (Relay.packets dst only).act) _ own _) _ :=
      collect_invariant packet_step own (s := ((noRelays ι).view i)) ⟨rfl, rfl⟩
    exact ⟨h.faithful, h.holding⟩

/-- **Whatever the order in which the relays, the pools and the collector take their steps**, the
buffers are apart, nothing panics, and each relay sends what it read, in order. -/
theorem relays_share_buffers (es : List (MemoryEvent ι RelayEvent)) :
    BuffersApart (relaysAfter relay es) ∧
      ∀ i, (relay i).Faithful (effectsOf relay i es) ((relaysAfter relay es).pc i) := by
  refine ⟨?_, fun i => (relay_faithful relay i es).1⟩
  obtain ⟨owner, h⟩ := Memory.run_owned (fun i => (relay i).act) es (noRelays_owned ι)
  refine ⟨h.running, fun i j s t hij hs ht => h.apart hs ht hij, ?_, ?_⟩
  · intro i
    rw [← (relay_faithful relay i es).2]
    exact Option.isSome_map.symm
  · intro i s hs
    obtain ⟨k, hk, hcap⟩ := h.given i s hs
    rw [hcap]
    exact ⟨k, allocatorPut_of_get hk⟩

end

end Bill
