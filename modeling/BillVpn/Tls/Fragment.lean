import BillVpn.Go.Conn
import BillVpn.Tls.ClientHello

/-!
# Fragmentation of a ClientHello

`sendRecords` sends one TLS record upstream in pieces: it cuts the record at the last dot of the
server name (`findLastDot`), splits both halves (`splitAndAppend`), wraps the parts in record
headers of their own when more than one record is asked for (`makeRecord`), and sends the
result in segments, the first one or two of them as urgent data when `oob` or `oob_ex` is set.

* `findLastDot_ok`, `findLastDot_panic`   the loop starts at the byte AFTER the name, so it is in
                                          range exactly when the name does not end the record;
* `desyncParts_ok`                        what `desyncSend` makes of a packet makes it up again;
* `splitAndAppend_ok`                     the parts make up the whole;
* `sendRecords_noPanic`                   in range for every accepted record with such a name;
* `sendRecords_crash`                     and out of range for every other one that is cut.

Pauses between the sends have no effect here and are left out.
-/

set_option linter.unusedVariables false

namespace Bill
open Go Res Proc Conn

/-! ## the wire -/

/-- a call that sends upstream, and that the system takes: `conn.Write`, `sendWithOOB` (the data and its
urgent byte) or `desyncSend` (the record, which is what the socket holds after it whatever its TTL,
the place of the name in it, and the TTL that is asked for) -/
inductive Wire where
  | data (b : Bytes)
  | oob (b : Bytes) (urgent : UInt8)
  | desync (b : Bytes) (sniPos : Int) (sniLen : Nat) (ttl : Int)
deriving DecidableEq, Repr

abbrev Upstream := Conn Wire

/-- `d[i] = b` -/
def setIdx (d : Bytes) (i : Nat) (b : UInt8) : Res Bytes :=
  if i < d.length then .ok (d.set i b) else .panic

/-- `make([]T, 0, n)`; capacities that the runtime cannot allocate are not modelled -/
def makeCap (n : Int) : Res Unit := if 0 ≤ n then .ok () else .panic

/-! ## the functions of the source -/

def dotByte : UInt8 := 0x2e

/-- `for i := sniPos + k; i >= sniPos; i--`, with the value returned after the loop -/
def lastDotLoop (data : Bytes) (sniPos : Int) (sniLen : Nat) : Nat → Res (Int × Bool)
  | 0 => do
    let b ← idx data sniPos
    if b = dotByte then pure (sniPos, true) else pure (↑(sniLen / 2) + sniPos, false)
  | k + 1 => do
    let b ← idx data (sniPos + ↑(k + 1))
    if b = dotByte then pure (sniPos + ↑(k + 1), true) else lastDotLoop data sniPos sniLen k

def findLastDot (data : Bytes) (sniPos : Int) (sniLen : Nat) : Res (Int × Bool) :=
  lastDotLoop data sniPos sniLen sniLen

/-- the length field is the payload's length modulo 2^16 -/
def makeRecord (header payload : Bytes) : Bytes :=
  (header ++ [0, 0, 0]).take 3 ++
    [UInt8.ofNat (payload.length / 256), UInt8.ofNat payload.length] ++ payload

/-- `if addHeader { makeRecord(header, part) } else { part }` -/
def addHeader : Option Bytes → Bytes → Bytes
  | some header, part => makeRecord header part
  | none, part => part

/-- the parts that `splitAndAppend` appends to its result -/
def splitAndAppend (data : Bytes) (header : Option Bytes) (n : Int) : Res (List Bytes) :=
  if n ≤ 0 then .ok []
  else if n = 1 ∨ (data.length : Int) < n then .ok [addHeader header data]
  else (List.range n.toNat).mapM fun i =>
    piece data (data.length / n.toNat) n.toNat i >>= fun part => .ok (addHeader header part)

/-- the two urgent sends of `oob_ex`, and what is left to send -/
def sendOobEx (d : Bytes) : Proc Upstream Bytes := do
  let a ← lift (sliceTo d 15)
  let u ← lift (idx d 15)
  wrap "oob 1" (send (.oob a u))
  let b ← lift (slice d 16 35)
  wrap "oob 2" (send (.oob b 0))
  lift (sliceFrom d 35)

/-- the `i`-th part; the first one goes with an urgent byte when `oob` is set -/
def sendPart (oob : Bool) (label : String) (i : Nat) (part : Bytes) : Proc Upstream Unit :=
  if i = 0 ∧ oob then wrap "oob" (send (.oob part 0))
  else wrap (label ++ " " ++ toString (i + 1)) (send (.data part))

def sendParts (oob : Bool) (label : String) : Nat → List (Res Bytes) → Proc Upstream Unit
  | _, [] => pure ()
  | i, part :: parts => do
    let p ← lift part
    sendPart oob label i p
    sendParts oob label (i + 1) parts

/-- the branch `records == 1`, past the urgent sends -/
def sendOneRecord (clientHello : Bytes) (offset : Int) (length : Nat) (segments : Int)
    (oob : Bool) : Proc Upstream Unit :=
  if segments = 1 then wrap "send remaining data" (send (.data clientHello))
  else do
    let leftSegments := segments.tdiv 2
    let rightSegments := segments - leftSegments
    lift (makeCap segments)
    let (cut, _) ← lift (findLastDot clientHello offset length)
    let a ← lift (sliceTo clientHello cut)
    let left ← lift (splitAndAppend a none leftSegments)
    let b ← lift (sliceFrom clientHello cut)
    let right ← lift (splitAndAppend b none rightSegments)
    sendParts oob "write packet" 0 ((left ++ right).map .ok)

/-- the records of the other branch -/
def makeChunks (clientHello : Bytes) (offset : Int) (length : Nat) (records : Int) :
    Res (List Bytes) := do
  let leftChunks := records.tdiv 2
  let rightChunks := records - leftChunks
  makeCap records
  let (cut, _) ← findLastDot clientHello offset length
  let header ← sliceTo clientHello 3
  let a ← slice clientHello 5 cut
  let left ← splitAndAppend a (some header) leftChunks
  let b ← sliceFrom clientHello cut
  let right ← splitAndAppend b (some header) rightChunks
  pure (left ++ right)

/-- the `i`-th record when `segments == -1`; the first record has no plain send -/
def sendChunk (oob oobex : Bool) (i : Nat) (chunk : Bytes) : Proc Upstream Unit :=
  if i = 0 then
    if oob then wrap "oob" (send (.oob chunk 0))
    else if oobex then do
      let a ← lift (sliceTo chunk (chunk.length - 1))
      let u ← lift (idx chunk (chunk.length - 1))
      wrap "oob 1" (send (.oob a u))
    else pure ()
  else if i = 1 ∧ oobex then wrap "oob 2" (send (.oob chunk 0))
  else wrap ("write record " ++ toString (i + 1)) (send (.data chunk))

def sendChunks (oob oobex : Bool) : Nat → List Bytes → Proc Upstream Unit
  | _, [] => pure ()
  | i, chunk :: chunks => do
    sendChunk oob oobex i chunk
    sendChunks oob oobex (i + 1) chunks

/-- the merged records in segments; the division panics on zero segments -/
def sendMerged (merged : Bytes) (segments : Int) (oob : Bool) : Proc Upstream Unit :=
  if segments = 1 ∨ (merged.length : Int) ≤ segments then send (.data merged)
  else if segments = 0 then lift .panic
  else
    -- a negative count is an empty range; its quotient is not used
    let n := segments.toNat
    sendParts oob "write segment" 0 ((List.range n).map (piece merged (merged.length / n) n))

/-- `if modMinorVer { clientHello[2] = 0x04 }` -/
def setMinorVer (modMinorVer : Bool) (clientHello : Bytes) : Res Bytes :=
  if modMinorVer then setIdx clientHello 2 0x04 else .ok clientHello

def sendRecords (clientHello : Bytes) (offset : Int) (length : Nat) (records segments : Int)
    (oob oobex modMinorVer : Bool) : Proc Upstream Unit := do
  let clientHello ← lift (setMinorVer modMinorVer clientHello)
  if records = 1 then
    if oobex then do
      let rest ← sendOobEx clientHello
      sendOneRecord rest (offset - 35) length segments oob
    else sendOneRecord clientHello offset length segments oob
  else do
    let chunks ← lift (makeChunks clientHello offset length records)
    if segments = -1 then sendChunks oob oobex 0 chunks
    else do
      lift (makeCap (records * 5 + clientHello.length))
      if oobex then do
        let rest ← sendOobEx chunks.flatten
        sendMerged rest segments oob
      else sendMerged chunks.flatten segments oob

/-- what `desyncSend` makes of a packet: the bytes that go out with the fake TTL, the bytes that the
system sends again in their place, and the rest -/
def desyncParts (firstPacket : Bytes) (sniPos : Int) (sniLen : Nat) : Res (Bytes × Bytes × Bytes) := do
  let (cut, found) ← findLastDot firstPacket sniPos sniLen
  let fakeData ← if found then do
      -- zeroes from the name on
      let shown ← sliceTo firstPacket sniPos
      pure ((shown ++ List.replicate cut.toNat 0).take cut.toNat)
    else sliceTo firstPacket cut
  let realData ← sliceTo firstPacket cut
  let rest ← sliceFrom firstPacket cut
  pure (fakeData, realData, rest)

/-- the two sends, of the front with the fake TTL and of the rest, are one event of the wire; a TTL that
the socket refuses (for IPv4: 0, above 255, below `-1`) is one of the calls that fail -/
def desyncSend (firstPacket : Bytes) (sniPos : Int) (sniLen : Nat) (fakeTTL : Int) :
    Proc Upstream Unit := do
  let _ ← lift (desyncParts firstPacket sniPos sniLen)
  send (.desync firstPacket sniPos sniLen fakeTTL)

/-! ## the cut -/

theorem lastDotLoop_ok {data : Bytes} {sniPos : Int} {sniLen : Nat} (h0 : 0 ≤ sniPos) (k : Nat)
    (hk : sniPos + k < data.length) (hkl : k ≤ sniLen) :
    ∃ cut found, lastDotLoop data sniPos sniLen k = .ok (cut, found) ∧
      sniPos ≤ cut ∧ cut ≤ sniPos + sniLen := by
  induction k with
  | zero =>
    obtain ⟨b, hb⟩ := idx_ok_of_lt (d := data) h0 (by omega)
    by_cases hd : b = dotByte
    · exact ⟨sniPos, true, by rw [lastDotLoop, hb, bind_ok, if_pos hd]; rfl, by omega, by omega⟩
    · exact ⟨_, false, by rw [lastDotLoop, hb, bind_ok, if_neg hd]; rfl, by omega, by omega⟩
  | succ k ih =>
    obtain ⟨b, hb⟩ := idx_ok_of_lt (d := data) (i := sniPos + ↑(k + 1)) (by omega) (by omega)
    by_cases hd : b = dotByte
    · exact ⟨_, true, by rw [lastDotLoop, hb, bind_ok, if_pos hd]; rfl, by omega, by omega⟩
    · obtain ⟨cut, found, hrun, hlo, hhi⟩ := ih (by omega) (by omega)
      exact ⟨cut, found, by rw [lastDotLoop, hb, bind_ok, if_neg hd, hrun], hlo, hhi⟩

theorem findLastDot_ok {data : Bytes} {sniPos : Int} {sniLen : Nat} (h0 : 0 ≤ sniPos)
    (h : sniPos + sniLen < data.length) :
    ∃ cut found, findLastDot data sniPos sniLen = .ok (cut, found) ∧
      sniPos ≤ cut ∧ cut ≤ sniPos + sniLen := lastDotLoop_ok h0 sniLen h le_rfl

theorem findLastDot_panic {data : Bytes} {sniPos : Int} {sniLen : Nat}
    (h : sniPos + sniLen < 0 ∨ (data.length : Int) ≤ sniPos + sniLen) :
    findLastDot data sniPos sniLen = .panic := by
  have hb : idx data (sniPos + sniLen) = .panic := idx_eq_panic.mpr h
  unfold findLastDot
  cases sniLen with
  | zero =>
    rw [Nat.cast_zero, add_zero] at hb
    rw [lastDotLoop, hb]; rfl
  | succ n => rw [lastDotLoop, hb]; rfl

/-- the bytes that are sent again and the rest make up the packet, and the fake ones have their length -/
theorem desyncParts_ok {d : Bytes} {o : Int} {l : Nat} (h0 : 0 ≤ o) (h : o + l < d.length) :
    ∃ fakeData realData rest, desyncParts d o l = .ok (fakeData, realData, rest) ∧
      realData ++ rest = d ∧ fakeData.length = realData.length := by
  obtain ⟨cut, found, hcut, hlo, hhi⟩ := findLastDot_ok h0 h
  obtain ⟨k, rfl⟩ : ∃ k : Nat, cut = k := ⟨cut.toNat, by omega⟩
  obtain ⟨n, rfl⟩ : ∃ n : Nat, o = n := ⟨o.toNat, by omega⟩
  have hreal : sliceTo d k = .ok (d.take k) := sliceTo_nat (by omega)
  have hrest : sliceFrom d k = .ok (d.drop k) := sliceFrom_nat (by omega)
  have hname : sliceTo d n = .ok (d.take n) := sliceTo_nat (by omega)
  unfold desyncParts
  rw [hcut, bind_ok]
  dsimp only
  rw [hname, hreal, bind_ok]
  cases found with
  | true =>
    refine ⟨(d.take n ++ List.replicate k 0).take k, d.take k, d.drop k, ?_, List.take_append_drop k d, ?_⟩
    · rw [if_pos rfl, Int.toNat_natCast]
      show (sliceFrom d k >>= _) = _
      rw [hrest]
      rfl
    · rw [List.length_take, List.length_append, List.length_replicate, List.length_take,
        List.length_take]
      omega
  | false =>
    refine ⟨d.take k, d.take k, d.drop k, ?_, List.take_append_drop k d, rfl⟩
    rw [if_neg (by decide), bind_ok, bind_ok, hrest]
    rfl

theorem desyncSend_sends {d : Bytes} {o : Int} {l : Nat} (h0 : 0 ≤ o) (h : o + l < d.length)
    (fakeTTL : Int) : Sends (desyncSend d o l fakeTTL) [.desync d o l fakeTTL] () := by
  obtain ⟨fakeData, realData, rest, hparts, -⟩ := desyncParts_ok h0 h
  exact Sends.lift_bind hparts (Sends.send _)

theorem desyncSend_crash {d : Bytes} {o : Int} {l : Nat} (h : (d.length : Int) ≤ o + l)
    (fakeTTL : Int) : Crashes (desyncSend d o l fakeTTL) := by
  refine Crashes.lift_bind ?_
  unfold desyncParts
  rw [findLastDot_panic (.inr h)]
  rfl

/-! ## the parts -/

/-- the parts of one half: equal but for the last one, or the half itself if it is too short -/
def evenParts (data : Bytes) (n : Int) : List Bytes :=
  if n = 1 ∨ (data.length : Int) < n then [data] else pieces (data.length / n.toNat) n.toNat data

theorem splitAndAppend_even (data : Bytes) (header : Option Bytes) {n : Int} (hn : 1 ≤ n) :
    splitAndAppend data header n = .ok ((evenParts data n).map (addHeader header)) := by
  unfold splitAndAppend evenParts
  rw [if_neg (by omega)]
  by_cases h1 : n = 1 ∨ (data.length : Int) < n
  · rw [if_pos h1, if_pos h1]
    rfl
  · rw [if_neg h1, if_neg h1, mapM_piece _ _ _ _ (Nat.mul_div_le _ _)]

theorem evenParts_flatten (data : Bytes) {n : Int} (hn : 1 ≤ n) : (evenParts data n).flatten = data := by
  unfold evenParts
  by_cases h1 : n = 1 ∨ (data.length : Int) < n
  · rw [if_pos h1, List.flatten_singleton]
  · obtain ⟨k, hk⟩ : ∃ k, n.toNat = k + 1 := ⟨n.toNat - 1, by omega⟩
    rw [if_neg h1, hk, pieces_flatten]

theorem evenParts_length (data : Bytes) {n : Int} (hn : 1 ≤ n) :
    1 ≤ (evenParts data n).length ∧ ((evenParts data n).length : Int) ≤ n := by
  unfold evenParts
  by_cases h1 : n = 1 ∨ (data.length : Int) < n
  · rw [if_pos h1]
    exact ⟨le_rfl, hn⟩
  · rw [if_neg h1, pieces_length]
    omega

theorem evenParts_ne_nil {data : Bytes} {n : Int} (hn : 1 ≤ n) (hd : data ≠ []) :
    ∀ p ∈ evenParts data n, p ≠ [] := by
  unfold evenParts
  by_cases h1 : n = 1 ∨ (data.length : Int) < n
  · rw [if_pos h1]
    intro p hp
    rwa [List.mem_singleton.mp hp]
  · rw [if_neg h1]
    have hbase : 1 ≤ data.length / n.toNat := (Nat.one_le_div_iff (by omega)).mpr (by omega)
    exact pieces_ne_nil hbase _ _ (Nat.mul_div_le _ _)

theorem splitAndAppend_ok (data : Bytes) (header : Option Bytes) {n : Int} (hn : 1 ≤ n) :
    ∃ parts : List Bytes, splitAndAppend data header n = .ok (parts.map (addHeader header)) ∧
      parts.flatten = data ∧ 1 ≤ parts.length :=
  ⟨_, splitAndAppend_even data header hn, evenParts_flatten data hn, (evenParts_length data hn).1⟩

theorem makeRecord_length (header payload : Bytes) :
    (makeRecord header payload).length = 5 + payload.length := by
  unfold makeRecord
  rw [List.length_append, List.length_append, List.length_take, List.length_append]
  simp

theorem flatten_makeRecord_length (header : Bytes) (parts : List Bytes) :
    (parts.map (makeRecord header)).flatten.length = 5 * parts.length + parts.flatten.length := by
  induction parts with
  | nil => rfl
  | cons p ps ih =>
    rw [List.map_cons, List.flatten_cons, List.length_append, ih, makeRecord_length,
      List.flatten_cons, List.length_append, List.length_cons]
    omega

theorem tdiv_two_pos {n : Int} (h : 2 ≤ n) : 1 ≤ n.tdiv 2 ∧ 1 ≤ n - n.tdiv 2 := by
  rw [Int.tdiv_eq_ediv_of_nonneg (by omega)]
  omega

/-- a name that can be cut: it starts past byte 58 and does not end the record -/
def Cuttable (d : Bytes) (offset : Int) (length : Nat) : Prop :=
  58 ≤ offset ∧ offset + length < d.length

instance (d : Bytes) (offset : Int) (length : Nat) : Decidable (Cuttable d offset length) := by
  unfold Cuttable; infer_instance

/-- the payloads on both sides of a cut -/
def chunkParts (d : Bytes) (cut : Nat) (records : Int) : List Bytes :=
  evenParts ((d.take cut).drop 5) (records.tdiv 2) ++
    evenParts (d.drop cut) (records - records.tdiv 2)

theorem makeChunks_even {d : Bytes} {offset : Int} {length cut : Nat} {found : Bool} {records : Int}
    (hr : 2 ≤ records) (hcut : findLastDot d offset length = .ok (↑cut, found)) (h5 : 5 ≤ cut)
    (hlen : cut ≤ d.length) : makeChunks d offset length records =
      .ok ((chunkParts d cut records).map (makeRecord (d.take 3))) := by
  have hhalf := tdiv_two_pos hr
  have hadd : addHeader (some (d.take 3)) = makeRecord (d.take 3) := rfl
  unfold makeChunks makeCap chunkParts
  rw [if_pos (by omega), bind_ok, hcut, bind_ok]
  dsimp only
  rw [show (3 : Int) = ((3 : Nat) : Int) from rfl, sliceTo_nat (by omega), bind_ok,
    slice_of_le (by omega) (by omega) (by omega), bind_ok, Int.toNat_natCast,
    show (5 : Int).toNat = 5 from rfl, splitAndAppend_even _ _ hhalf.1, bind_ok,
    sliceFrom_nat (by omega), bind_ok, splitAndAppend_even _ _ hhalf.2, bind_ok, List.map_append, hadd]
  rfl

theorem chunkParts_flatten {d : Bytes} {cut : Nat} {records : Int} (hr : 2 ≤ records) (h5 : 5 ≤ cut)
    (hlen : cut ≤ d.length) : (chunkParts d cut records).flatten = d.drop 5 := by
  have hhalf := tdiv_two_pos hr
  unfold chunkParts
  rw [List.flatten_append, evenParts_flatten _ hhalf.1, evenParts_flatten _ hhalf.2]
  conv_rhs => rw [← List.take_append_drop cut d]
  rw [List.drop_append_of_le_length (by rw [List.length_take]; omega)]

theorem chunkParts_length (d : Bytes) (cut : Nat) {records : Int} (hr : 2 ≤ records) :
    2 ≤ (chunkParts d cut records).length ∧ ((chunkParts d cut records).length : Int) ≤ records := by
  have hhalf := tdiv_two_pos hr
  have hl := evenParts_length ((d.take cut).drop 5) hhalf.1
  have hrr := evenParts_length (d.drop cut) hhalf.2
  unfold chunkParts
  rw [List.length_append]
  omega

theorem chunkParts_ne_nil {d : Bytes} {cut : Nat} {records : Int} (hr : 2 ≤ records) (h5 : 5 < cut)
    (hlen : cut < d.length) : ∀ p ∈ chunkParts d cut records, p ≠ [] := by
  have hhalf := tdiv_two_pos hr
  have hleft : (d.take cut).drop 5 ≠ [] :=
    List.ne_nil_of_length_pos (by rw [List.length_drop, List.length_take]; omega)
  have hright : d.drop cut ≠ [] := List.ne_nil_of_length_pos (by rw [List.length_drop]; omega)
  intro p hp
  rcases List.mem_append.mp hp with hp | hp
  · exact evenParts_ne_nil hhalf.1 hleft p hp
  · exact evenParts_ne_nil hhalf.2 hright p hp

theorem makeChunks_cut {d : Bytes} {offset : Int} {length : Nat} {records : Int}
    (hr : 2 ≤ records) (hc : Cuttable d offset length) :
    ∃ (cut : Nat) (found : Bool), findLastDot d offset length = .ok (↑cut, found) ∧
      offset ≤ cut ∧ (cut : Int) ≤ offset + length ∧ makeChunks d offset length records =
        .ok ((chunkParts d cut records).map (makeRecord (d.take 3))) := by
  obtain ⟨h58, hlen⟩ := hc
  obtain ⟨cut, found, hcut, hlo, hhi⟩ := findLastDot_ok (by omega) hlen
  obtain ⟨k, rfl⟩ : ∃ k : Nat, cut = k := ⟨cut.toNat, by omega⟩
  exact ⟨k, found, hcut, hlo, hhi, makeChunks_even hr hcut (by omega) (by omega)⟩

/-- the records of two or more chunks: same header, payloads that make up the payload -/
theorem makeChunks_ok {d : Bytes} {offset : Int} {length : Nat} {records : Int}
    (hr : 2 ≤ records) (hc : Cuttable d offset length) :
    ∃ parts : List Bytes, makeChunks d offset length records = .ok (parts.map (makeRecord (d.take 3))) ∧
      parts.flatten = d.drop 5 ∧ 2 ≤ parts.length := by
  obtain ⟨cut, found, -, hlo, hhi, hch⟩ := makeChunks_cut hr hc
  obtain ⟨h58, hlen⟩ := hc
  exact ⟨_, hch, chunkParts_flatten hr (by omega) (by omega), (chunkParts_length d cut hr).1⟩

/-! ## what the loops send -/

theorem sendParts_noPanic (oob : Bool) (label : String) (i : Nat) (ps : List Bytes) :
    NoPanic (sendParts oob label i (ps.map .ok)) := by
  induction ps generalizing i with
  | nil => exact Safe.pure trivial
  | cons p ps ih =>
    refine Safe.lift_bind (by simp) fun a _ => Safe.bind (P := fun _ => True) ?_ fun _ _ => ih (i + 1)
    exact Safe.ite (fun _ => (send_noPanic _).wrap) fun _ => (send_noPanic _).wrap

theorem sendChunk_noPanic (oob oobex : Bool) (i : Nat) {chunk : Bytes} (h : 1 ≤ chunk.length) :
    NoPanic (sendChunk oob oobex i chunk) := by
  refine Safe.ite (fun _ => ?_) fun _ =>
    Safe.ite (fun _ => (send_noPanic _).wrap) fun _ => (send_noPanic _).wrap
  refine Safe.ite (fun _ => (send_noPanic _).wrap) fun _ => ?_
  refine Safe.ite (fun _ => ?_) fun _ => Safe.pure trivial
  refine Safe.lift_bind ?_ fun a _ => Safe.lift_bind ?_ fun u _ => (send_noPanic _).wrap
  · rw [sliceTo, Ne, slice_eq_panic, not_not]; omega
  · rw [Ne, idx_eq_panic]; omega

theorem sendChunks_noPanic (oob oobex : Bool) (i : Nat) (chunks : List Bytes)
    (h : ∀ c ∈ chunks, 1 ≤ c.length) : NoPanic (sendChunks oob oobex i chunks) := by
  induction chunks generalizing i with
  | nil => exact Safe.pure trivial
  | cons c cs ih =>
    refine Safe.bind (sendChunk_noPanic oob oobex i (h c List.mem_cons_self)) fun _ _ => ?_
    exact ih (i + 1) fun x hx => h x (List.mem_cons_of_mem _ hx)

theorem sendOobEx_safe {d : Bytes} (h : 35 ≤ d.length) :
    Safe (sendOobEx d) fun rest => rest = d.drop 35 := by
  refine Safe.lift_bind ?_ fun a _ => Safe.lift_bind ?_ fun u _ => ?_
  · rw [sliceTo, Ne, slice_eq_panic, not_not]; omega
  · rw [Ne, idx_eq_panic]; omega
  refine (send_noPanic _).wrap.bind fun _ _ => Safe.lift_bind ?_ fun b _ => ?_
  · rw [Ne, slice_eq_panic, not_not]; omega
  refine (send_noPanic _).wrap.bind fun _ _ => ?_
  rw [show (35 : Int) = ((35 : Nat) : Int) from rfl, sliceFrom_nat h]
  exact Safe.lift (by simp) fun a ha => (ok.inj ha).symm

theorem sendOobEx_sends {d : Bytes} (h : 35 ≤ d.length) :
    Sends (sendOobEx d) [.oob (d.take 15) (d.getD 15 0), .oob ((d.take 35).drop 16) 0] (d.drop 35) := by
  have h15 : idx d 15 = .ok (d.getD 15 0) := by
    rw [show (15 : Int) = ((15 : Nat) : Int) from rfl, idx_nat (show 15 < d.length by omega),
      List.getD_eq_getElem?_getD, List.getElem?_eq_getElem (show 15 < d.length by omega)]
    rfl
  unfold sendOobEx
  refine Sends.lift_bind (a := d.take 15) (sliceTo_nat (n := 15) (by omega)) ?_
  refine Sends.lift_bind h15 (Sends.send_bind ?_)
  refine Sends.lift_bind (a := (d.take 35).drop 16) (slice_of_le (by omega) (by omega) (by omega)) ?_
  exact Sends.send_bind (Sends.lift (sliceFrom_nat (n := 35) (by omega)))

theorem sendMerged_noPanic (merged : Bytes) {segments : Int} (h : 1 ≤ segments) (oob : Bool) :
    NoPanic (sendMerged merged segments oob) := by
  unfold sendMerged
  refine Safe.ite (fun _ => send_noPanic _) fun _ => ?_
  rw [if_neg (by omega)]
  dsimp only
  rw [map_piece _ _ _ (Nat.mul_div_le _ _)]
  exact sendParts_noPanic _ _ _ _

/-- the segments of a single record: the cut is in range where the name can be cut -/
theorem sendOneRecord_noPanic {d : Bytes} {offset : Int} {length : Nat} {segments : Int}
    (oob : Bool) (hs : 1 ≤ segments)
    (hc : segments = 1 ∨ 0 ≤ offset ∧ offset + length < d.length) :
    NoPanic (sendOneRecord d offset length segments oob) := by
  unfold sendOneRecord
  refine Safe.ite (fun _ => (send_noPanic _).wrap) fun h1 => ?_
  obtain ⟨h0, hlen⟩ := hc.resolve_left h1
  obtain ⟨cut, found, hcut, hlo, hhi⟩ := findLastDot_ok h0 hlen
  have hhalf := tdiv_two_pos (show 2 ≤ segments by omega)
  refine Safe.lift_bind ?_ fun _ _ => ?_
  · rw [makeCap, if_pos (by omega)]; simp
  rw [hcut]
  refine Safe.lift_bind (by simp) fun r hr => ?_
  cases hr
  refine Safe.lift_bind ?_ fun a _ => ?_
  · rw [sliceTo, Ne, slice_eq_panic, not_not]; omega
  obtain ⟨left, hl, _⟩ := splitAndAppend_ok a none hhalf.1
  refine Safe.lift_bind (by rw [hl]; simp) fun l _ => Safe.lift_bind ?_ fun b _ => ?_
  · rw [sliceFrom, Ne, slice_eq_panic, not_not]; omega
  obtain ⟨right, hr, _⟩ := splitAndAppend_ok b none hhalf.2
  exact Safe.lift_bind (by rw [hr]; simp) fun r _ => sendParts_noPanic _ _ _ _

/-! ## in range, and out of it -/

/-- the counts that a policy may ask for -/
def Admitted (records segments : Int) : Prop := 1 ≤ records ∧ (1 ≤ segments ∨ segments = -1 ∧ 2 ≤ records)

/-- nothing is cut: one record in one segment -/
def Whole (records segments : Int) : Prop := records = 1 ∧ segments = 1

theorem setMinorVer_ok (modMinorVer : Bool) {d : Bytes} (h : 3 ≤ d.length) :
    ∃ d', setMinorVer modMinorVer d = .ok d' ∧ d'.length = d.length ∧ d'.drop 3 = d.drop 3 := by
  unfold setMinorVer setIdx
  cases modMinorVer with
  | false => exact ⟨d, rfl, rfl, rfl⟩
  | true =>
    refine ⟨d.set 2 0x04, ?_, List.length_set, ?_⟩
    · rw [if_pos rfl, if_pos (by omega)]
    · rw [List.drop_set_of_lt (by omega)]

section
variable {d : Bytes} {offset : Int} {length : Nat} {records segments : Int}

/-- **In range.**  With counts a policy may ask for, every index and slice of `sendRecords` is in
range if the record is sent whole or its name can be cut, whatever the connection answers. -/
theorem sendRecords_noPanic (oob oobex modMinorVer : Bool) (h47 : 47 ≤ d.length)
    (hadm : Admitted records segments) (hc : Whole records segments ∨ Cuttable d offset length) :
    NoPanic (sendRecords d offset length records segments oob oobex modMinorVer) := by
  obtain ⟨hr, hseg⟩ := hadm
  obtain ⟨d', hd', hlen, -⟩ := setMinorVer_ok modMinorVer (show 3 ≤ d.length by omega)
  unfold sendRecords
  refine Safe.lift_bind (by rw [hd']; simp) fun e he => ?_
  obtain rfl : d' = e := by rw [hd'] at he; exact ok.inj he
  refine Safe.ite (fun h1 => ?_) fun h1 => ?_
  · -- one record: `oob_ex` takes 35 bytes off the record and off the offset
    have hs : 1 ≤ segments := by omega
    refine Safe.ite (fun _ => ?_) fun _ => ?_
    · refine (sendOobEx_safe (by omega)).bind fun rest hrest => sendOneRecord_noPanic oob hs ?_
      rw [hrest, List.length_drop]
      rcases hc with hw | hcut
      · exact Or.inl hw.2
      · unfold Cuttable at hcut
        exact Or.inr (by omega)
    · refine sendOneRecord_noPanic oob hs ?_
      rcases hc with hw | hcut
      · exact Or.inl hw.2
      · unfold Cuttable at hcut
        exact Or.inr (by omega)
  · have hcut : Cuttable d' offset length := by
      rcases hc with hw | hcut
      · exact absurd hw.1 h1
      · unfold Cuttable at hcut ⊢
        omega
    obtain ⟨parts, hp, hpf, hp2⟩ := makeChunks_ok (show 2 ≤ records by omega) hcut
    have hfl : (parts.map (makeRecord (d'.take 3))).flatten.length = 5 * parts.length + (d'.length - 5) := by
      rw [flatten_makeRecord_length, hpf, List.length_drop]
    rw [hp]
    refine Safe.lift_bind (by simp) fun chunks hch => ?_
    cases hch
    refine Safe.ite (fun _ => sendChunks_noPanic _ _ _ _ ?_) fun h2 => ?_
    · intro c hcm
      obtain ⟨p, -, rfl⟩ := List.mem_map.mp hcm
      rw [makeRecord_length]; omega
    have hs : 1 ≤ segments := by omega
    refine Safe.lift_bind ?_ fun _ _ => ?_
    · rw [makeCap, if_pos (by omega)]; simp
    refine Safe.ite (fun _ => ?_) fun _ => sendMerged_noPanic _ hs _
    exact (sendOobEx_safe (by omega)).bind fun rest _ => sendMerged_noPanic _ hs _

/-- **Out of range.**  A record that is cut although its name ends it, or that has no name, makes
`sendRecords` panic on every connection that does not fail first. -/
theorem sendRecords_crash (oob oobex modMinorVer : Bool) (h47 : 47 ≤ d.length)
    (hadm : Admitted records segments) (hw : ¬ Whole records segments)
    (hc : offset + length < 0 ∨ (d.length : Int) ≤ offset + length) :
    Crashes (sendRecords d offset length records segments oob oobex modMinorVer) := by
  obtain ⟨hr, hseg⟩ := hadm
  obtain ⟨d', hd', hlen, -⟩ := setMinorVer_ok modMinorVer (show 3 ≤ d.length by omega)
  unfold sendRecords
  refine Crashes.bind (Sends.lift hd') ?_
  by_cases h1 : records = 1
  · have hs2 : 2 ≤ segments := by
      unfold Whole at hw
      omega
    have hone : ∀ (e : Bytes) (o : Int), o + length < 0 ∨ (e.length : Int) ≤ o + length →
        Crashes (sendOneRecord e o length segments oob) := by
      intro e o ho
      unfold sendOneRecord
      rw [if_neg (by omega)]
      refine Crashes.bind (a := ()) (Sends.lift ?_) (Crashes.lift_bind (findLastDot_panic ho))
      rw [makeCap, if_pos (by omega)]
    rw [if_pos h1]
    by_cases hx : oobex = true
    · rw [if_pos hx]
      refine Crashes.bind (sendOobEx_sends (by omega)) (hone _ _ ?_)
      rw [List.length_drop]
      omega
    · rw [if_neg hx]
      exact hone _ _ (by omega)
  · rw [if_neg h1]
    refine Crashes.lift_bind ?_
    unfold makeChunks
    rw [makeCap, if_pos (by omega), bind_ok, findLastDot_panic (by omega)]
    rfl

end

end Bill
