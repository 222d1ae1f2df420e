import BillVpn.Go.Conn

/-!
# A buffered reader

`bufio.Reader` over a connection.  The connection delivers its bytes in segments: one read returns
bytes of one segment.

* `Reader.peek`, `Reader.read`   `Peek` fills the buffer until there is enough, `Read` returns what
                                 is buffered and does not ask for more;
* `Reader.rest`                  all bytes that can still be read;
* `peek_spec`                    a peek gives the first bytes and leaves `rest` as it is.
-/

set_option linter.unusedVariables false

namespace Go

structure Reader where
  buf : Bytes := []
  segs : List Bytes := []
  /-- what the connection reports behind its last byte -/
  ending : String := "EOF"
deriving DecidableEq, Repr

namespace Reader

def bufSize : Nat := 4096

def rest (r : Reader) : Bytes := r.buf ++ r.segs.flatten

/-- reads of the connection into the free part of the buffer, until `n` bytes are there -/
def fill (n : Nat) (buf : Bytes) : List Bytes → Bytes × List Bytes
  | [] => (buf, [])
  | seg :: segs =>
    if n ≤ buf.length then (buf, seg :: segs)
    else if buf.length + seg.length ≤ bufSize then fill n (buf ++ seg) segs
    else (buf ++ seg.take (bufSize - buf.length), seg.drop (bufSize - buf.length) :: segs)

/-- `Peek(n)`, for an `n` that fits into the buffer -/
def peek (n : Nat) : Proc Reader Bytes := fun r =>
  let filled := fill n r.buf r.segs
  let r := { r with buf := filled.1, segs := filled.2 }
  if n ≤ r.buf.length then (.ok (r.buf.take n), r) else (.err r.ending, r)

/-- `Read` into a slice of `n` bytes: with an empty buffer it reads once, into the slice if that is
at least as large as the buffer -/
def read (n : Nat) : Proc Reader Bytes := fun r =>
  if r.buf ≠ [] then (.ok (r.buf.take n), { r with buf := r.buf.drop n })
  else match r.segs with
    | [] => (.err r.ending, r)
    | seg :: segs =>
      if bufSize ≤ n then (.ok (seg.take n), { r with segs := seg.drop n :: segs })
      else (.ok ((seg.take bufSize).take n),
        { r with buf := (seg.take bufSize).drop n, segs := seg.drop bufSize :: segs })

/-- the reader after `n` bytes have been taken by someone who reads until they have enough -/
def skip (n : Nat) (r : Reader) : Reader := { r with buf := r.rest.drop n, segs := [] }

theorem rest_skip (n : Nat) (r : Reader) : (r.skip n).rest = r.rest.drop n := List.append_nil _

/-! ## the buffer -/

theorem fill_rest (n : Nat) (segs : List Bytes) : ∀ buf : Bytes,
    (fill n buf segs).1 ++ (fill n buf segs).2.flatten = buf ++ segs.flatten := by
  induction segs with
  | nil => exact fun buf => rfl
  | cons seg segs ih =>
    intro buf
    unfold fill
    split_ifs with h1 h2
    · rfl
    · rw [ih, List.flatten_cons, List.append_assoc]
    · rw [List.flatten_cons, List.flatten_cons, ← List.append_assoc, List.append_assoc buf,
        List.take_append_drop, List.append_assoc]

theorem fill_le {n : Nat} (segs : List Bytes) : ∀ {buf : Bytes}, buf.length ≤ bufSize →
    (fill n buf segs).1.length ≤ bufSize := by
  induction segs with
  | nil => exact fun h => h
  | cons seg segs ih =>
    intro buf h
    unfold fill
    split_ifs with h1 h2
    · exact h
    · apply ih
      rw [List.length_append]
      exact h2
    · show (buf ++ seg.take (bufSize - buf.length)).length ≤ bufSize
      rw [List.length_append, List.length_take]
      omega

theorem fill_enough {n : Nat} (hn : n ≤ bufSize) (segs : List Bytes) : ∀ {buf : Bytes},
    buf.length ≤ bufSize → n ≤ (buf ++ segs.flatten).length → n ≤ (fill n buf segs).1.length := by
  induction segs with
  | nil =>
    intro buf hb h
    rwa [List.flatten_nil, List.append_nil] at h
  | cons seg segs ih =>
    intro buf hb h
    unfold fill
    split_ifs with h1 h2
    · exact h1
    · apply ih
      · rw [List.length_append]
        exact h2
      · rwa [List.append_assoc, ← List.flatten_cons]
    · show n ≤ (buf ++ seg.take (bufSize - buf.length)).length
      rw [List.length_append, List.length_take]
      omega

/-- **A peek with enough bytes to come gives the first of them**, and buffers at least these. -/
theorem peek_spec {n : Nat} (hn : n ≤ bufSize) {r : Reader} (hb : r.buf.length ≤ bufSize)
    (h : n ≤ r.rest.length) :
    ∃ r', r.peek n = (.ok (r.rest.take n), r') ∧ r'.rest = r.rest ∧ n ≤ r'.buf.length ∧
      r'.buf.length ≤ bufSize := by
  have hle := fill_enough hn r.segs hb h
  have hrest := fill_rest n r.segs r.buf
  refine ⟨{ r with buf := (fill n r.buf r.segs).1, segs := (fill n r.buf r.segs).2 }, ?_, hrest, hle,
    fill_le r.segs hb⟩
  unfold peek
  rw [if_pos hle]
  refine congrArg (fun b => (Res.ok b, _)) ?_
  unfold rest
  rw [← hrest, List.take_append_of_le_length hle]

theorem peek_short {n : Nat} {r : Reader} (h : r.rest.length < n) :
    ∃ r', r.peek n = (.err r.ending, r') := by
  have hrest := congrArg List.length (fill_rest n r.segs r.buf)
  rw [List.length_append] at hrest
  unfold rest at h
  refine ⟨{ r with buf := (fill n r.buf r.segs).1, segs := (fill n r.buf r.segs).2 }, ?_⟩
  unfold peek
  exact if_neg (by dsimp only; omega)

theorem peek_ending (n : Nat) (r : Reader) : (r.peek n).2.ending = r.ending := by
  unfold peek
  dsimp only
  split_ifs
  · rfl
  · rfl

theorem peek_cut {n : Nat} (hn : n ≤ bufSize) {first : Bytes} (h : first.length = n) (h0 : 0 < n)
    (segs : List Bytes) (ending : String) :
    ({ segs := first :: segs, ending := ending } : Reader).peek n =
      (.ok first, { buf := first, segs := segs, ending := ending }) := by
  have hstop : fill n first segs = (first, segs) := by
    cases segs with
    | nil => rfl
    | cons seg segs => exact if_pos (by omega)
  have hfill : fill n [] (first :: segs) = (first, segs) := by
    unfold fill
    rw [if_neg (show ¬ n ≤ ([] : Bytes).length by rw [List.length_nil]; omega),
      if_pos (show ([] : Bytes).length + first.length ≤ bufSize by rw [List.length_nil]; omega)]
    exact hstop
  unfold peek
  dsimp only
  rw [hfill]
  dsimp only
  rw [if_pos (by omega), List.take_of_length_le (by omega)]

theorem peek_one {n : Nat} (h0 : 0 < n) (hn : n ≤ bufSize) {stream : Bytes} (h : n ≤ stream.length)
    (ending : String) :
    ∃ r', ({ segs := [stream], ending := ending } : Reader).peek n = (.ok (stream.take n), r') ∧
      r'.rest = stream ∧ r'.buf = stream.take bufSize := by
  have hfill : fill n [] [stream] = (stream.take bufSize, (fill n [] [stream]).2) := by
    unfold fill
    rw [if_neg (show ¬ n ≤ ([] : Bytes).length by rw [List.length_nil]; omega)]
    split_ifs with h2
    · rw [List.take_of_length_le (by rwa [List.length_nil, Nat.zero_add] at h2)]
      rfl
    · rfl
  obtain ⟨r', hr, hrest, -, -⟩ := peek_spec (r := { segs := [stream], ending := ending }) hn
    (Nat.zero_le _) (by simpa [rest] using h)
  have hs : ({ segs := [stream], ending := ending } : Reader).rest = stream := by
    unfold rest
    rw [List.flatten_singleton, List.nil_append]
  rw [hs] at hr hrest
  refine ⟨r', hr, hrest, ?_⟩
  have hbuf := congrArg (fun x => x.2.buf) hr
  unfold peek at hbuf
  dsimp only at hbuf
  rw [hfill] at hbuf
  split_ifs at hbuf with h3
  · exact hbuf.symm
  · exact hbuf.symm

end Reader

end Go
