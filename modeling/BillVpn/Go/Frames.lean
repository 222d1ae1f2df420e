import BillVpn.Go.Conn
import BillVpn.Go.Window

/-!
# Streams of messages with a length in front

A connection delivers its bytes in segments.  `io.ReadFull` reads on until its buffer is full, so
what it gives depends on the bytes and not on how they are cut.  A message is framed by its length,
in two bytes.

* `readFull`           `io.ReadFull` on a connection;
* `readFull_ok`, `readFull_short`   with enough bytes, and with too few;
* `frame`, `frames`    one message, and several one after the other;
* `unframe`            the messages of a byte string, and what is left of it;
* `unframe_frames`     what was framed is read back.
-/

set_option linter.unusedVariables false

namespace Go
open Proc

/-! ## reading until the buffer is full -/

/-- what a connection still delivers: one `Read` gives bytes of one segment -/
structure Stream where
  segs : List Bytes := []
  /-- the error behind the last byte -/
  ending : String := "EOF"
deriving DecidableEq, Repr

def Stream.rest (s : Stream) : Bytes := s.segs.flatten

/-- the loop of `io.ReadFull`, with `n` bytes to go -/
def takeFull : Nat → List Bytes → Bytes × List Bytes
  | _, [] => ([], [])
  | n, seg :: segs =>
    if n ≤ seg.length then (seg.take n, seg.drop n :: segs)
    else (seg ++ (takeFull (n - seg.length) segs).1, (takeFull (n - seg.length) segs).2)

theorem takeFull_eq (segs : List Bytes) : ∀ n,
    (takeFull n segs).1 = segs.flatten.take n ∧
      (takeFull n segs).2.flatten = segs.flatten.drop n := by
  induction segs with
  | nil => exact fun n => ⟨List.take_nil.symm, List.drop_nil.symm⟩
  | cons seg segs ih =>
    intro n
    unfold takeFull
    by_cases h : n ≤ seg.length
    · rw [if_pos h]
      refine ⟨?_, ?_⟩
      · rw [List.flatten_cons, List.take_append_of_le_length h]
      · rw [List.flatten_cons, List.flatten_cons, List.drop_append_of_le_length h]
    · rw [if_neg h]
      have hle : seg.length ≤ n := by omega
      refine ⟨?_, ?_⟩
      · rw [List.flatten_cons, List.take_append, List.take_of_length_le hle, (ih _).1]
      · rw [List.flatten_cons, List.drop_append, List.drop_of_length_le hle, (ih _).2,
          List.nil_append]

/-- the end of the stream in the middle of the buffer is an error of its own -/
def readFull (n : Nat) : Proc Stream Bytes := fun s =>
  let r := takeFull n s.segs
  if r.1.length = n then (.ok r.1, { s with segs := r.2 })
  else (.err (if r.1 ≠ [] ∧ s.ending = "EOF" then "unexpected EOF" else s.ending),
    { s with segs := r.2 })

theorem readFull_ok {n : Nat} {s : Stream} (h : n ≤ s.rest.length) :
    ∃ s', readFull n s = (.ok (s.rest.take n), s') ∧ s'.rest = s.rest.drop n := by
  obtain ⟨h1, h2⟩ := takeFull_eq s.segs n
  refine ⟨{ s with segs := (takeFull n s.segs).2 }, ?_, h2⟩
  unfold readFull
  rw [if_pos (by rw [h1, List.length_take]; exact Nat.min_eq_left h), h1]
  rfl

theorem readFull_short {n : Nat} {s : Stream} (h : s.rest.length < n) :
    ∃ e s', readFull n s = (.err e, s') := by
  have h1 := (takeFull_eq s.segs n).1
  unfold readFull
  rw [if_neg]
  · exact ⟨_, _, rfl⟩
  · rw [h1, List.length_take]
    have : min n s.segs.flatten.length ≤ s.segs.flatten.length := Nat.min_le_right _ _
    exact fun he => absurd h (by unfold Stream.rest; omega)

/-! ## frames -/

/-- the length wraps at 16 bits, as `uint16` does -/
def frame (m : Bytes) : Bytes := be16 m.length ++ m

def frames (ms : List Bytes) : Bytes := ms.flatMap frame

/-- the first message, if all of it is there, and what follows it -/
def splitFrame (d : Bytes) : Option (Bytes × Bytes) :=
  if 2 ≤ d.length ∧ 2 + u16At d 0 ≤ d.length then
    some ((d.drop 2).take (u16At d 0), d.drop (2 + u16At d 0))
  else none

/-- one turn for each message; a message has at least the two bytes of its length -/
def unframeLoop : Nat → Bytes → List Bytes × Bytes
  | 0, d => ([], d)
  | k + 1, d =>
    match splitFrame d with
    | none => ([], d)
    | some (m, d') => (m :: (unframeLoop k d').1, (unframeLoop k d').2)

def unframe (d : Bytes) : List Bytes × Bytes := unframeLoop d.length d

theorem splitFrame_shorter {d m d' : Bytes} (h : splitFrame d = some (m, d')) :
    d'.length < d.length := by
  unfold splitFrame at h
  split_ifs at h with hd
  cases h
  rw [List.length_drop]
  omega

theorem splitFrame_frame {m : Bytes} (hm : m.length < 65536) (d : Bytes) :
    splitFrame (frame m ++ d) = some (m, d) := by
  have hat : At (frame m ++ d) 0 (be16 m.length) := (At.whole _).left.left
  have hu : u16At (frame m ++ d) 0 = m.length := hat.u16At hm
  have hlen : (frame m).length = 2 + m.length := by
    unfold frame
    rw [List.length_append, be16_length]
  unfold splitFrame
  rw [hu, if_pos (by rw [List.length_append, hlen]; omega), ← hlen, List.drop_left]
  have hdrop : (frame m ++ d).drop 2 = m ++ d := rfl
  rw [hdrop, List.take_left]

theorem unframeLoop_fuel {k : Nat} : ∀ {d : Bytes}, d.length ≤ k → unframeLoop k d = unframe d := by
  induction k using Nat.strong_induction_on with
  | _ k ih =>
    intro d hk
    cases k with
    | zero =>
      rw [List.length_eq_zero_iff.mp (Nat.le_zero.mp hk)]
      rfl
    | succ k =>
      unfold unframe
      cases hd : d.length with
      | zero =>
        rw [List.length_eq_zero_iff.mp hd]
        rfl
      | succ n =>
        unfold unframeLoop
        cases hs : splitFrame d with
        | none => rfl
        | some p =>
          obtain ⟨m, d'⟩ := p
          have hlt := splitFrame_shorter hs
          dsimp only
          rw [ih k (by omega) (by omega), ih n (by omega) (by omega)]

theorem unframe_none {d : Bytes} (h : splitFrame d = none) : unframe d = ([], d) := by
  rw [← unframeLoop_fuel (Nat.le_succ d.length)]
  unfold unframeLoop
  rw [h]

theorem unframe_some {d m d' : Bytes} (h : splitFrame d = some (m, d')) :
    unframe d = (m :: (unframe d').1, (unframe d').2) := by
  have hlt := splitFrame_shorter h
  rw [← unframeLoop_fuel (Nat.le_succ d.length)]
  unfold unframeLoop
  rw [h]
  dsimp only
  rw [unframeLoop_fuel (by omega)]

/-- **What was framed is read back**, up to something that is not a whole message. -/
theorem unframe_frames {ms : List Bytes} (hms : ∀ m ∈ ms, m.length < 65536) {rest : Bytes}
    (hrest : splitFrame rest = none) : unframe (frames ms ++ rest) = (ms, rest) := by
  induction ms with
  | nil => exact unframe_none hrest
  | cons m ms ih =>
    have hsplit : splitFrame (frames (m :: ms) ++ rest) = some (m, frames ms ++ rest) := by
      unfold frames
      rw [List.flatMap_cons, List.append_assoc]
      exact splitFrame_frame (hms m List.mem_cons_self) _
    rw [unframe_some hsplit, ih fun x hx => hms x (List.mem_cons_of_mem _ hx)]

end Go
