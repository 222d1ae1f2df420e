import Mathlib.Data.List.Basic
import Mathlib.Tactic

/-!
# Go calls that may panic or fail, byte slices and their bounds

A Go call ends in one of three ways (`Res`): it PANICS (an index or a slice out of range, a
division by zero, a negative capacity), it returns an ERROR, or it returns a value.  A procedure
over a state `σ` (`Proc σ`) keeps the state in all three cases: what a call did before it
panicked or failed stays done.

* `idx`, `slice`        `d[i]` and `d[lo:hi]` with Go's bounds checks (`int` indices, so a
                        sentinel such as `-1` is a legal argument and an illegal index);
* `beUint16`            `binary.BigEndian.Uint16`;
* `Res.bind_eq_ok`, `Proc.run_bind`   the two rules by which the proofs below take a call apart.

Slices are bounded by their LENGTH here.  Go bounds a slice expression by the capacity; every
slice of the development that is in range is in range for the length.
-/

set_option linter.unusedVariables false

namespace Go

/-- a Go `string` or `[]byte` -/
abbrev Bytes := List UInt8

instance : LawfulBEq Bytes := inferInstanceAs (LawfulBEq (List UInt8))

/-- the bytes of a string literal of the source -/
def lit (s : String) : Bytes := s.toUTF8.data.toList

/-- the bytes as the characters of an error text -/
def textOf (s : Bytes) : String := String.ofList (s.map fun c => Char.ofNat c.toNat)

/-! ## calls -/

inductive Res (α : Type) where
  | panic
  | err (msg : String)
  | ok (a : α)
deriving DecidableEq, Repr

namespace Res
variable {α β γ : Type}

protected def bind : Res α → (α → Res β) → Res β
  | .panic, _ => .panic
  | .err e, _ => .err e
  | .ok a, f => f a

instance : Monad Res where
  pure := Res.ok
  bind := Res.bind

@[simp] theorem pure_eq (a : α) : (pure a : Res α) = .ok a := rfl
@[simp] theorem bind_panic (f : α → Res β) : (Res.panic >>= f) = .panic := rfl
@[simp] theorem bind_err (e : String) (f : α → Res β) : (Res.err e >>= f) = .err e := rfl
@[simp] theorem bind_ok (a : α) (f : α → Res β) : (Res.ok a >>= f) = f a := rfl

instance : LawfulMonad Res := LawfulMonad.mk' Res
  (fun x => by cases x <;> rfl) (fun _ _ => rfl) (fun x _ _ => by cases x <;> rfl)

theorem bind_eq_ok {x : Res α} {f : α → Res β} {b : β} :
    (x >>= f) = .ok b ↔ ∃ a, x = .ok a ∧ f a = .ok b := by
  cases x <;> simp

theorem bind_eq_panic {x : Res α} {f : α → Res β} :
    (x >>= f) = .panic ↔ x = .panic ∨ ∃ a, x = .ok a ∧ f a = .panic := by
  cases x <;> simp

/-- the value, if the call returns one -/
def toOption : Res α → Option α
  | .ok a => some a
  | _ => none

/-- a pair of a value and an `error` -/
def ofExcept : Except String α → Res α
  | .ok a => .ok a
  | .error e => .err e

theorem ofExcept_eq_ok {x : Except String α} {a : α} : ofExcept x = .ok a ↔ x = .ok a := by
  cases x <;> simp [ofExcept]

/-- `if c { return errors.New(msg) }` -/
def failIf (c : Prop) [Decidable c] (msg : String) : Res Unit := if c then .err msg else .ok ()

theorem failIf_eq_ok {c : Prop} [Decidable c] {msg : String} {u : Unit} :
    failIf c msg = .ok u ↔ ¬ c := by
  unfold failIf
  by_cases h : c <;> simp [h]

theorem failIf_bind {c : Prop} [Decidable c] {msg : String} {f : Unit → Res β} (h : ¬ c) :
    (failIf c msg >>= f) = f () := by
  rw [failIf, if_neg h]
  rfl

theorem failIf_bind_ne_panic {c : Prop} [Decidable c] {msg : String} {f : Unit → Res β}
    (h : ¬ c → f () ≠ .panic) : (failIf c msg >>= f) ≠ .panic := by
  unfold failIf
  by_cases hc : c
  · rw [if_pos hc]; simp
  · rw [if_neg hc]; exact h hc

/-- the wrapped error of `wrap(msg, err)` -/
def wrap (msg : String) : Res α → Res α
  | .err e => .err (msg ++ ": " ++ e)
  | x => x

theorem wrap_eq_ok {msg : String} {x : Res α} {a : α} : x.wrap msg = .ok a ↔ x = .ok a := by
  cases x <;> simp [wrap]

end Res

/-- a call that reads and writes a state; the state survives a panic and an error -/
def Proc (σ α : Type) := σ → Res α × σ

namespace Proc
variable {σ α β : Type}

instance : Monad (Proc σ) where
  pure a := fun s => (.ok a, s)
  bind x f := fun s =>
    match x s with
    | (.ok a, s') => f a s'
    | (.err e, s') => (.err e, s')
    | (.panic, s') => (.panic, s')

/-- a call that does not touch the state -/
def lift (x : Res α) : Proc σ α := fun s => (x, s)

def get : Proc σ σ := fun s => (.ok s, s)
def set (s : σ) : Proc σ Unit := fun _ => (.ok (), s)
def fail (msg : String) : Proc σ α := fun s => (.err msg, s)

@[simp] theorem run_pure (a : α) (s : σ) : (pure a : Proc σ α) s = (.ok a, s) := rfl
@[simp] theorem run_lift (x : Res α) (s : σ) : (lift x : Proc σ α) s = (x, s) := rfl
@[simp] theorem run_fail (e : String) (s : σ) : (fail e : Proc σ α) s = (.err e, s) := rfl

theorem run_bind (x : Proc σ α) (f : α → Proc σ β) (s : σ) :
    (x >>= f) s = match x s with
      | (.ok a, s') => f a s'
      | (.err e, s') => (.err e, s')
      | (.panic, s') => (.panic, s') := rfl

theorem run_bind_ok {x : Proc σ α} {f : α → Proc σ β} {s s' : σ} {a : α}
    (h : x s = (.ok a, s')) : (x >>= f) s = f a s' := by
  rw [run_bind, h]

theorem seq_assoc {γ : Type} (x : Proc σ α) (f : α → Proc σ β) (k : β → Proc σ γ) :
    (x >>= f) >>= k = x >>= fun a => f a >>= k := by
  funext s
  show (match (x >>= f) s with | (.ok b, s') => _ | (.err e, s') => _ | (.panic, s') => _) =
    match x s with | (.ok a, s') => _ | (.err e, s') => _ | (.panic, s') => _
  rw [run_bind]
  rcases x s with ⟨r, s'⟩
  cases r <;> rfl

theorem run_bind_eq_ok {x : Proc σ α} {f : α → Proc σ β} {s s' : σ} {b : β} :
    (x >>= f) s = (.ok b, s') ↔ ∃ a s1, x s = (.ok a, s1) ∧ f a s1 = (.ok b, s') := by
  rw [run_bind]
  rcases x s with ⟨r, s1⟩
  cases r <;> simp

theorem run_bind_panic {x : Proc σ α} {f : α → Proc σ β} {s s' : σ}
    (h : x s = (.panic, s')) : (x >>= f) s = (.panic, s') := by
  rw [run_bind, h]

/-- either `x` returns a value and `f` goes on, or it ends the sequence -/
theorem run_bind_cases {x : Proc σ α} {s s1 : σ} {r : Res α} (h : x s = (r, s1))
    (f : α → Proc σ β) :
    (∃ a, r = .ok a ∧ (x >>= f) s = f a s1) ∨
      (∀ a, r ≠ .ok a) ∧ ((x >>= f) s).2 = s1 ∧ ∀ b, ((x >>= f) s).1 ≠ .ok b := by
  rw [run_bind, h]
  cases r with
  | ok a => exact Or.inl ⟨a, rfl, rfl⟩
  | err e => exact Or.inr ⟨fun a => nofun, rfl, fun b => nofun⟩
  | panic => exact Or.inr ⟨fun a => nofun, rfl, fun b => nofun⟩

theorem run_bind_err {x : Proc σ α} {f : α → Proc σ β} {s s' : σ} {e : String}
    (h : x s = (.err e, s')) : (x >>= f) s = (.err e, s') := by
  rw [run_bind, h]

end Proc

/-! ## bytes and bounds -/

section
variable {α : Type}

/-- `d[i]` -/
def idx (d : List α) (i : Int) : Res α :=
  if 0 ≤ i then (match d[i.toNat]? with | some b => .ok b | none => .panic) else .panic

/-- `d[lo:hi]` -/
def slice (d : List α) (lo hi : Int) : Res (List α) :=
  if 0 ≤ lo ∧ lo ≤ hi ∧ hi ≤ d.length then .ok ((d.take hi.toNat).drop lo.toNat) else .panic

theorem idx_eq_ok {d : List α} {i : Int} {b : α} :
    idx d i = .ok b ↔ 0 ≤ i ∧ d[i.toNat]? = some b := by
  unfold idx
  by_cases h : 0 ≤ i
  · rw [if_pos h]
    cases e : d[i.toNat]? <;> simp [h]
  · rw [if_neg h]; simp [h]

theorem idx_eq_panic {d : List α} {i : Int} :
    idx d i = .panic ↔ i < 0 ∨ (d.length : Int) ≤ i := by
  unfold idx
  by_cases h : 0 ≤ i
  · rw [if_pos h]
    cases e : d[i.toNat]? with
    | none => rw [List.getElem?_eq_none_iff] at e; simp; omega
    | some b =>
      have := (List.getElem?_eq_some_iff.mp e).1
      simp; omega
  · rw [if_neg h]; simp; omega

theorem idx_ne_err {d : List α} {i : Int} (e : String) : idx d i ≠ .err e := by
  unfold idx
  split_ifs
  · cases d[i.toNat]? with
    | some b => exact fun h => nomatch h
    | none => exact fun h => nomatch h
  · exact fun h => nomatch h

theorem idx_ok_of_lt {d : List α} {i : Int} (h0 : 0 ≤ i) (h : i < d.length) :
    ∃ b, idx d i = .ok b := by
  have hlt : i.toNat < d.length := by omega
  exact ⟨d[i.toNat], idx_eq_ok.mpr ⟨h0, List.getElem?_eq_getElem hlt⟩⟩

theorem idx_nat {d : List α} {n : Nat} (h : n < d.length) : idx d (n : Int) = .ok d[n] := by
  rw [idx_eq_ok]
  exact ⟨by omega, List.getElem?_eq_getElem h⟩

theorem slice_eq_ok {d : List α} {lo hi : Int} {b : List α} :
    slice d lo hi = .ok b ↔
      (0 ≤ lo ∧ lo ≤ hi ∧ hi ≤ d.length) ∧ (d.take hi.toNat).drop lo.toNat = b := by
  unfold slice
  by_cases h : 0 ≤ lo ∧ lo ≤ hi ∧ hi ≤ d.length
  · rw [if_pos h]; simp [h]
  · rw [if_neg h]; simp [h]

theorem slice_eq_panic {d : List α} {lo hi : Int} :
    slice d lo hi = .panic ↔ ¬ (0 ≤ lo ∧ lo ≤ hi ∧ hi ≤ d.length) := by
  unfold slice
  by_cases h : 0 ≤ lo ∧ lo ≤ hi ∧ hi ≤ d.length
  · rw [if_pos h]; simp [h]
  · rw [if_neg h]; simp [h]

theorem slice_of_le {d : List α} {lo hi : Int} (h0 : 0 ≤ lo) (h1 : lo ≤ hi) (h2 : hi ≤ d.length) :
    slice d lo hi = .ok ((d.take hi.toNat).drop lo.toNat) := by
  unfold slice; rw [if_pos ⟨h0, h1, h2⟩]

/-- `d[lo:]` -/
def sliceFrom (d : List α) (lo : Int) : Res (List α) := slice d lo d.length

/-- `d[:hi]` -/
def sliceTo (d : List α) (hi : Int) : Res (List α) := slice d 0 hi

theorem sliceFrom_nat {d : List α} {n : Nat} (h : n ≤ d.length) :
    sliceFrom d (n : Int) = .ok (d.drop n) := by
  unfold sliceFrom
  rw [slice_of_le (by omega) (by omega) (by omega)]
  simp

theorem sliceTo_nat {d : List α} {n : Nat} (h : n ≤ d.length) :
    sliceTo d (n : Int) = .ok (d.take n) := by
  unfold sliceTo
  rw [slice_of_le (by omega) (by omega) (by omega)]
  simp

end

/-- `binary.BigEndian.Uint16`: the second byte is read first, as the library does -/
def beUint16 (b : Bytes) : Res Nat := do
  let lo ← idx b 1
  let hi ← idx b 0
  pure (hi.toNat * 256 + lo.toNat)

/-- `binary.BigEndian.Uint16(d[off:off+2])` -/
def rd16 (d : Bytes) (off : Int) : Res Nat := do
  let b ← slice d off (off + 2)
  beUint16 b

/-- the value at `off` in a byte string that holds two bytes there -/
def u16At (d : Bytes) (off : Nat) : Nat := (d.getD off 0).toNat * 256 + (d.getD (off + 1) 0).toNat

theorem u16At_lt (d : Bytes) (off : Nat) : u16At d off < 65536 := by
  unfold u16At
  have h1 := (d.getD off 0).toNat_lt
  have h2 := (d.getD (off + 1) 0).toNat_lt
  omega

theorem u16At_append {d : Bytes} {off : Nat} (h : off + 2 ≤ d.length) (b : Bytes) :
    u16At (d ++ b) off = u16At d off := by
  unfold u16At
  rw [List.getD_eq_getElem?_getD, List.getD_eq_getElem?_getD, List.getElem?_append_left (by omega),
    List.getElem?_append_left (by omega), List.getD_eq_getElem?_getD, List.getD_eq_getElem?_getD]

theorem idx_window (d : Bytes) (off n k : Nat) (hk : k < n) (h : off + n ≤ d.length) :
    idx ((d.take (off + n)).drop off) (k : Int) = .ok (d.getD (off + k) 0) := by
  have hlt : off + k < d.length := by omega
  rw [idx_eq_ok]
  refine ⟨by omega, ?_⟩
  rw [Int.toNat_natCast, List.getElem?_drop, List.getElem?_take_of_lt (by omega),
    List.getD_eq_getElem?_getD, List.getElem?_eq_getElem hlt]
  rfl

theorem rd16_nat {d : Bytes} {off : Nat} (h : off + 2 ≤ d.length) :
    rd16 d (off : Int) = .ok (u16At d off) := by
  have e1 : ((off : Int) + 2).toNat = off + 2 := by omega
  have g1 := idx_window d off 2 1 (by omega) h
  have g0 := idx_window d off 2 0 (by omega) h
  unfold rd16 beUint16 u16At
  rw [slice_of_le (by omega) (by omega) (by omega), e1, Int.toNat_natCast, Res.bind_ok]
  rw [Nat.cast_one] at g1
  rw [Nat.cast_zero] at g0
  rw [g1, g0]
  rfl

end Go
