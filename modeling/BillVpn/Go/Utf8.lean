import BillVpn.Go.Basic

/-!
# The bytes and the runes of a valid text

A Go string that is valid UTF-8 has two readings: its bytes (`lit`) and the characters that
`range` decodes.  A character below 128 is one byte, and that byte is part of no other
character; so a text is cut at an ASCII character in the same places in both readings.

* `lit_eq_encode`      the bytes are the encodings of the characters, in order;
* `mem_lit`            an ASCII character is among the bytes iff it is among the characters;
* `encode_splitOn`     cutting at an ASCII character commutes with the encoding.
-/

set_option linter.unusedVariables false

namespace Go

/-! ## one character -/

/-- the bytes of a list of characters -/
def encode (cs : List Char) : Bytes := cs.flatMap String.utf8EncodeChar

def byteOf (c : Char) : UInt8 := UInt8.ofNat c.toNat

theorem utf8EncodeChar_ascii {c : Char} (hc : c.toNat < 128) :
    String.utf8EncodeChar c = [byteOf c] := by
  have hle : c.val.toNat ≤ 0x7f := Nat.le_of_lt_succ hc
  unfold String.utf8EncodeChar
  exact if_pos hle

theorem toNat_byteOf {c : Char} (hc : c.toNat < 128) : (byteOf c).toNat = c.toNat :=
  Nat.mod_eq_of_lt (Nat.lt_trans hc (by decide))

theorem utf8EncodeChar_high {c : Char} (hc : 128 ≤ c.toNat) :
    ∀ b ∈ String.utf8EncodeChar c, 128 ≤ b.toNat := by
  have hv : ¬ c.val.toNat ≤ 0x7f := Nat.not_le_of_lt hc
  intro b hb
  unfold String.utf8EncodeChar at hb
  dsimp only at hb
  rw [if_neg hv] at hb
  split_ifs at hb with h2 h3 <;>
    simp only [List.mem_cons, List.not_mem_nil, or_false] at hb
  · rcases hb with rfl | rfl <;> simp only [UInt8.toNat_ofNat'] <;> omega
  · rcases hb with rfl | rfl | rfl <;> simp only [UInt8.toNat_ofNat'] <;> omega
  · rcases hb with rfl | rfl | rfl | rfl <;> simp only [UInt8.toNat_ofNat'] <;> omega

theorem byteOf_mem_utf8EncodeChar {a c : Char} (ha : a.toNat < 128) :
    byteOf a ∈ String.utf8EncodeChar c ↔ a = c := by
  by_cases hc : c.toNat < 128
  · rw [utf8EncodeChar_ascii hc, List.mem_singleton]
    constructor
    · intro h
      have hn : a.toNat = c.toNat := by
        rw [← toNat_byteOf ha, ← toNat_byteOf hc, h]
      exact Char.toNat_inj.mp hn
    · intro h
      rw [h]
  · constructor
    · intro h
      have hb := utf8EncodeChar_high (Nat.le_of_not_lt hc) _ h
      rw [toNat_byteOf ha] at hb
      exact absurd ha (Nat.not_lt_of_le hb)
    · intro h
      exact absurd (h ▸ ha) hc

/-! ## texts -/

theorem encode_append (cs ds : List Char) : encode (cs ++ ds) = encode cs ++ encode ds :=
  List.flatMap_append

theorem encode_cons (c : Char) (cs : List Char) :
    encode (c :: cs) = String.utf8EncodeChar c ++ encode cs := rfl

theorem lit_eq_encode (s : String) : lit s = encode s.toList := by
  show s.toByteArray.data.toList = _
  rw [← String.utf8Encode_toList]
  show ((encode s.toList).toByteArray).data.toList = _
  rw [List.data_toByteArray]

theorem lit_ofList (cs : List Char) : lit (String.ofList cs) = encode cs := by
  rw [lit_eq_encode, String.toList_ofList]

theorem lit_append (s t : String) : lit (s ++ t) = lit s ++ lit t := by
  rw [lit_eq_encode, lit_eq_encode, lit_eq_encode, String.toList_append, encode_append]

theorem mem_encode {a : Char} (ha : a.toNat < 128) (cs : List Char) :
    byteOf a ∈ encode cs ↔ a ∈ cs := by
  induction cs with
  | nil => simp [encode]
  | cons c cs ih =>
    rw [encode_cons, List.mem_append, byteOf_mem_utf8EncodeChar ha, ih, List.mem_cons]

theorem mem_lit {a : Char} (ha : a.toNat < 128) (s : String) :
    byteOf a ∈ lit s ↔ a ∈ s.toList := by
  rw [lit_eq_encode, mem_encode ha]

/-! ## cutting at an ASCII character -/

theorem splitOn_append_left {x : UInt8} {l : Bytes} (hx : x ∉ l) (s : Bytes) :
    (l ++ s).splitOn x = (s.splitOn x).modifyHead (l ++ ·) := by
  induction l with
  | nil =>
    rw [List.nil_append]
    cases s.splitOn x <;> rfl
  | cons c l ih =>
    have hc : (c == x) = false := beq_false_of_ne fun h => hx (h ▸ List.mem_cons_self)
    have hl := ih fun h => hx (List.mem_cons_of_mem _ h)
    rw [List.cons_append, List.splitOn_cons_eq_if_modifyHead, hl, hc]
    cases s.splitOn x <;> rfl

/-- **Cutting the characters at an ASCII character cuts the bytes at its byte.** -/
theorem encode_splitOn {a : Char} (ha : a.toNat < 128) (cs : List Char) :
    (encode cs).splitOn (byteOf a) = (cs.splitOn a).map encode := by
  induction cs with
  | nil => rfl
  | cons c cs ih =>
    rw [List.splitOn_cons_eq_if_modifyHead]
    by_cases hc : c = a
    · subst hc
      rw [encode_cons, utf8EncodeChar_ascii ha, List.singleton_append,
        List.splitOn_cons_eq_if_modifyHead, if_pos (beq_self_eq_true _),
        if_pos (beq_self_eq_true _), ih]
      rfl
    · have hb : byteOf a ∉ String.utf8EncodeChar c :=
        fun h => hc ((byteOf_mem_utf8EncodeChar ha).mp h).symm
      rw [encode_cons, splitOn_append_left hb, ih, if_neg (by simpa using hc)]
      cases cs.splitOn a <;> rfl

end Go
