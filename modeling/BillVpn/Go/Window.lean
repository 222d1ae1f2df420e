import BillVpn.Go.Basic

/-!
# What stands at an offset of a byte string

`At d off x`: the bytes `x` stand in `d` from `off` on.  Fields that follow each other are taken
apart with `At.left` and `At.right`; a field is read with `At.byte`, `At.rd16` or `At.slice`.
-/

set_option linter.unusedVariables false

namespace Go

/-- big-endian, as `binary.BigEndian.PutUint16` writes it -/
def be16 (n : Nat) : Bytes := [UInt8.ofNat (n / 256), UInt8.ofNat n]

@[simp] theorem be16_length (n : Nat) : (be16 n).length = 2 := rfl

def At (d : Bytes) (off : Nat) (x : Bytes) : Prop :=
  ∃ before behind, d = before ++ x ++ behind ∧ before.length = off

namespace At
variable {d x y : Bytes} {off : Nat}

theorem whole (d : Bytes) : At d 0 d := ⟨[], [], by simp, rfl⟩

theorem left (h : At d off (x ++ y)) : At d off x := by
  obtain ⟨before, behind, hd, hlen⟩ := h
  exact ⟨before, y ++ behind, by rw [hd]; simp, hlen⟩

theorem right (h : At d off (x ++ y)) {n : Nat} (hn : off + x.length = n) : At d n y := by
  obtain ⟨before, behind, hd, hlen⟩ := h
  exact ⟨before ++ x, behind, by rw [hd]; simp, by rw [List.length_append, hlen, hn]⟩

theorem le (h : At d off x) : off + x.length ≤ d.length := by
  obtain ⟨before, behind, hd, hlen⟩ := h
  rw [hd, List.length_append, List.length_append, hlen]
  omega

theorem getElem? (h : At d off x) {i : Nat} (hi : i < x.length) : d[off + i]? = x[i]? := by
  obtain ⟨before, behind, hd, hlen⟩ := h
  rw [hd, List.append_assoc, List.getElem?_append_right (by omega), ← hlen,
    Nat.add_sub_cancel_left, List.getElem?_append_left hi]

theorem byte {b : UInt8} (h : At d off (b :: x)) : idx d ↑off = .ok b := by
  rw [idx_eq_ok]
  refine ⟨by omega, ?_⟩
  rw [Int.toNat_natCast]
  exact h.getElem? (i := 0) (by simp)

theorem u16At {n : Nat} (hn : n < 65536) (h : At d off (be16 n)) : u16At d off = n := by
  have h0 : d[off]? = some (UInt8.ofNat (n / 256)) := h.getElem? (i := 0) (by simp)
  have h1 : d[off + 1]? = some (UInt8.ofNat n) := h.getElem? (i := 1) (by simp)
  unfold Go.u16At
  rw [List.getD_eq_getElem?_getD, List.getD_eq_getElem?_getD, h0, h1, Option.getD_some,
    Option.getD_some, UInt8.toNat_ofNat', UInt8.toNat_ofNat']
  omega

theorem rd16 {n : Nat} (hn : n < 65536) (h : At d off (be16 n)) : rd16 d ↑off = .ok n := by
  have hle := h.le
  rw [be16_length] at hle
  rw [rd16_nat hle, h.u16At hn]

theorem slice (h : At d off x) : slice d ↑off ↑(off + x.length) = .ok x := by
  have hle := h.le
  obtain ⟨before, behind, hd, hlen⟩ := h
  rw [slice_of_le (by omega) (by omega) (by omega), Int.toNat_natCast, Int.toNat_natCast, hd,
    ← hlen, ← List.length_append, List.take_left, List.drop_left]

end At
end Go
