import BillVpn.Go.HostPort
import BillVpn.Go.NetipText

/-!
# `host:port` texts of addresses

An address without a zone is written with hexadecimal digits, dots and colons, and a port with
digits, so `SplitHostPort` takes apart what `JoinHostPort` made of the two.

* `ipString_to4`, `to16_to4`   an IPv4 address in its mapped form is the same address;
* `mem_ipString`             the characters of an address;
* `splitHostPort_join`       `SplitHostPort` after `JoinHostPort`;
* `atoi_itoa`                `Atoi` after `Itoa`.
-/

set_option linter.unusedVariables false

namespace Go

/-! ## the two forms of an IPv4 address -/

/-- `ip.To16()` -/
def to16 (ip : IP) : IP :=
  if ip.length = 4 then [0, 0, 0, 0, 0, 0, 0, 0, 0, 0, 0xff, 0xff] ++ ip
  else if ip.length = 16 then ip
  else []

section
variable {ip : IP}

theorem mapped_of_to4 (h : to4 ip ≠ []) (h4 : ip.length ≠ 4) :
    ip.length = 16 ∧ ip.take 12 = [0, 0, 0, 0, 0, 0, 0, 0, 0, 0, 0xff, 0xff] := by
  by_contra hc
  rw [to4, if_neg h4, if_neg hc] at h
  exact h rfl

theorem to4_length (h : to4 ip ≠ []) : (to4 ip).length = 4 := by
  unfold to4 at h ⊢
  split_ifs at h ⊢ with h4 h16
  · exact h4
  · rw [List.length_drop, h16.1]
  · exact absurd rfl h

theorem to16_of_length (h : ip.length = 16) : to16 ip = ip := by
  rw [to16, if_neg (by omega), if_pos h]

theorem ip_ne_nil (h : ip.length = 4 ∨ ip.length = 16) : ip ≠ [] := by
  rintro rfl
  rcases h with h | h <;> cases h

theorem to16_ne_nil (h : ip.length = 4 ∨ ip.length = 16) : to16 ip ≠ [] := by
  intro hc
  have hlen := congrArg List.length hc
  unfold to16 at hlen
  split_ifs at hlen with h4 h16
  · simp at hlen
  · rw [h16] at hlen
    cases hlen
  · omega

theorem to16_to4 (h : to4 ip ≠ []) : to16 (to4 ip) = to16 ip := by
  by_cases h4 : ip.length = 4
  · rw [to4, if_pos h4]
  · have hm := mapped_of_to4 h h4
    have hdrop : (ip.drop 12).length = 4 := by rw [List.length_drop, hm.1]
    rw [to4, if_neg h4, if_pos hm]
    unfold to16
    rw [if_pos hdrop, if_neg h4, if_pos hm.1, ← hm.2, List.take_append_drop]

theorem parseIP_length {s : Bytes} (h : parseIP s ≠ []) : (parseIP s).length = 16 := by
  unfold parseIP at h ⊢
  cases hp : parseAddr s with
  | none =>
    rw [hp] at h
    exact absurd rfl h
  | some a =>
    rw [hp] at h
    dsimp only at h ⊢
    by_cases hz : a.zone = []
    · rw [if_pos hz]
      cases a with
      | v4 n => exact length_toBytes 16 _
      | v6 n z => exact length_toBytes 16 _
    · rw [if_neg hz] at h
      exact absurd rfl h

theorem ofBytes_append_bytes (a b : Bytes) :
    ofBytes (a ++ b) = ofBytes a * 256 ^ b.length + ofBytes b := by
  induction b using List.reverseRecOn with
  | nil => simp [ofBytes]
  | append_singleton b c ih =>
    rw [← List.append_assoc, ofBytes_append, ofBytes_append, ih, List.length_append,
      List.length_singleton, pow_succ]
    ring

theorem addrFromSlice_v4 (h : ip.length = 4) (hlt : ofBytes ip < 2 ^ 32) :
    addrFromSlice ip = some (.v4 ⟨ofBytes ip, hlt⟩) := by
  unfold addrFromSlice
  rw [if_pos h, dif_pos hlt]

theorem addrFromSlice_v6 (h : ip.length = 16) (hlt : ofBytes ip < 2 ^ 128) :
    addrFromSlice ip = some (.v6 ⟨ofBytes ip, hlt⟩ []) := by
  unfold addrFromSlice
  rw [if_neg (by omega), if_pos h, dif_pos hlt]

theorem ipString_of_slice {a : Addr} (h : ip.length = 4 ∨ ip.length = 16) (ha : addrFromSlice ip = some a) :
    ipString ip = a.unmap.text := by
  unfold ipString
  rw [if_neg (ip_ne_nil h), if_neg (by omega), ha]

theorem ipString_to4 (h : to4 ip ≠ []) : ipString ip = ipString (to4 ip) := by
  by_cases h4 : ip.length = 4
  · rw [to4, if_pos h4]
  obtain ⟨hlen, hmap⟩ := mapped_of_to4 h h4
  have hto : to4 ip = ip.drop 12 := by rw [to4, if_neg h4, if_pos ⟨hlen, hmap⟩]
  have hdrop : (ip.drop 12).length = 4 := by rw [List.length_drop, hlen]
  have hlow := ofBytes_lt (ip.drop 12)
  rw [hdrop] at hlow
  have hval : ofBytes ip = 0xffff * 256 ^ 4 + ofBytes (ip.drop 12) := by
    conv_lhs => rw [← List.take_append_drop 12 ip, hmap]
    rw [ofBytes_append_bytes, hdrop]
    rfl
  have h6 := addrFromSlice_v6 hlen (by omega)
  have h4 := addrFromSlice_v4 hdrop (by omega)
  rw [hto, ipString_of_slice (.inr hlen) h6, ipString_of_slice (.inl hdrop) h4]
  show (if ofBytes ip / 2 ^ 32 = 0xffff then Addr.v4 ⟨ofBytes ip % 2 ^ 32, _⟩ else _).text = _
  rw [if_pos (by omega)]
  have hfin : (⟨ofBytes ip % 2 ^ 32, Nat.mod_lt _ (by norm_num)⟩ : Fin (2 ^ 32)) =
      ⟨ofBytes (ip.drop 12), by omega⟩ := by
    apply Fin.ext
    show ofBytes ip % 2 ^ 32 = ofBytes (ip.drop 12)
    omega
  rw [hfin]
  rfl

theorem length_of_to4_nil (h : ip.length = 4 ∨ ip.length = 16) (h4 : to4 ip = []) : ip.length = 16 := by
  refine h.resolve_left fun hlen => ?_
  rw [to4, if_pos hlen] at h4
  rw [h4] at hlen
  cases hlen

theorem parseIP_ipString (h : ip.length = 4 ∨ ip.length = 16) : parseIP (ipString ip) = to16 ip := by
  by_cases h4 : to4 ip = []
  · have hlen := length_of_to4_nil h h4
    rw [to16_of_length hlen]
    exact parseIP_ipString_v6 hlen h4
  · have hto : to4 (parseIP (ipString ip)) = to4 ip := by
      rw [ipString_to4 h4]
      exact parseIP_ipString_v4 (to4_length h4)
    have hne : parseIP (ipString ip) ≠ [] := by
      intro hc
      rw [hc] at hto
      exact h4 hto.symm
    rw [← to16_to4 h4, ← hto, to16_to4 (by rw [hto]; exact h4), to16_of_length (parseIP_length hne)]

end

/-! ## the characters of an address -/

theorem addrChar_text {a : Addr} (hz : a.zone = []) : ∀ c ∈ a.text, AddrChar c := by
  cases a with
  | v4 n => exact addrChar_dotted n.val
  | v6 n z =>
    have hz : z = [] := hz
    subst hz
    intro c hc
    by_cases hm : n.val / 2 ^ 32 = 0xffff
    · have htext : (Addr.v6 n []).text = lit "::ffff:" ++ dotted (n.val % 2 ^ 32) ++ [] := if_pos hm
      rw [htext, List.append_nil] at hc
      rcases List.mem_append.mp hc with h | h
      · exact addrChar_mapped c h
      · exact addrChar_dotted _ c h
    · have htext : (Addr.v6 n []).text = text6 (groups n.val) ++ [] := if_neg hm
      rw [htext, List.append_nil] at hc
      exact addrChar_text6 _ c hc

theorem unmap_zone {a : Addr} (hz : a.zone = []) : a.unmap.zone = [] := by
  cases a with
  | v4 n => rfl
  | v6 n z =>
    show (if n.val / 2 ^ 32 = 0xffff then _ else _ : Addr).zone = []
    by_cases hm : n.val / 2 ^ 32 = 0xffff
    · rw [if_pos hm]
      rfl
    · rw [if_neg hm]
      exact hz

theorem addrFromSlice_zone {ip : IP} {a : Addr} (h : addrFromSlice ip = some a) : a.zone = [] := by
  unfold addrFromSlice at h
  split_ifs at h <;> cases h <;> rfl

theorem mem_ipString {ip : IP} (h : ip.length = 4 ∨ ip.length = 16) : ∀ c ∈ ipString ip, AddrChar c := by
  obtain ⟨a, ha⟩ := addrFromSlice_isSome h
  rw [ipString_of_slice h ha]
  exact addrChar_text (unmap_zone (addrFromSlice_zone ha))

theorem addrChar_not_bracket {c : UInt8} (h : AddrChar c) : c ≠ lbracket ∧ c ≠ rbracket := by
  constructor
  · rintro rfl
    rcases h with h | h | h <;> exact absurd h (by decide)
  · rintro rfl
    rcases h with h | h | h <;> exact absurd h (by decide)

/-! ## joining and splitting -/

section
variable {port : Bytes}

theorem last_colon (before : Bytes) (hp : colon ∉ port) :
    ((before ++ colon :: port).reverse.takeWhile (· != colon)).reverse = port := by
  have hall : ∀ c ∈ port.reverse, (c != colon) = true := by
    intro c hc
    rw [bne_iff_ne]
    rintro rfl
    exact hp (List.mem_reverse.mp hc)
  rw [List.reverse_append, List.reverse_cons, List.append_assoc,
    List.takeWhile_append_of_pos hall]
  simp

theorem take_before (before : Bytes) :
    (before ++ colon :: port).take ((before ++ colon :: port).length - port.length - 1) = before := by
  have hlen : (before ++ colon :: port).length - port.length - 1 = before.length := by
    rw [List.length_append, List.length_cons]
    omega
  rw [hlen, List.take_left]

theorem splitHostPort_join (host port : Bytes) (hhost : ∀ c ∈ host, c ≠ lbracket ∧ c ≠ rbracket)
    (hport : ∀ c ∈ port, c ≠ colon ∧ c ≠ lbracket ∧ c ≠ rbracket) :
    splitHostPort (joinHostPort host port) = some (host, port) := by
  have hp : colon ∉ port := fun h => (hport _ h).1 rfl
  unfold splitHostPort joinHostPort
  by_cases hc : colon ∈ host
  · have heq : lbracket :: host ++ [rbracket, colon] ++ port =
        (lbracket :: host ++ [rbracket]) ++ colon :: port := by simp
    have hwhile : ((lbracket :: host ++ [rbracket] ++ colon :: port).drop 1).takeWhile (· != rbracket) =
        host := by
      have hall : ∀ c ∈ host, (c != rbracket) = true := by
        intro c hc
        rw [bne_iff_ne]
        exact (hhost c hc).2
      show (host ++ [rbracket] ++ colon :: port).takeWhile _ = _
      rw [List.append_assoc, List.takeWhile_append_of_pos hall]
      simp
    rw [if_pos hc, heq, if_neg (by simp)]
    dsimp only
    have hhead : (lbracket :: host ++ [rbracket] ++ colon :: port).head? = some lbracket := rfl
    rw [last_colon _ hp, take_before, hwhile, if_pos hhead, if_pos ⟨by simp, by simp⟩, if_neg]
    rintro (h | h)
    · simp only [List.cons_append, List.drop_succ_cons, List.drop_zero, List.mem_append,
        List.mem_cons, List.not_mem_nil, or_false] at h
      rcases h with (h | h) | h | h
      · exact (hhost _ h).1 rfl
      · exact absurd h (by decide)
      · exact absurd h (by decide)
      · exact (hport _ h).2.1 rfl
    · have hdrop : (lbracket :: host ++ [rbracket] ++ colon :: port).drop (host.length + 2) =
          colon :: port := by
        have hlen : (lbracket :: host ++ [rbracket]).length = host.length + 2 := by simp
        rw [← hlen, List.drop_left]
      rw [hdrop] at h
      rcases List.mem_cons.mp h with h | h
      · exact absurd h (by decide)
      · exact (hport _ h).2.2 rfl
  · have heq : host ++ [colon] ++ port = host ++ colon :: port := by simp
    have hnone : ∀ b, (b = lbracket ∨ b = rbracket) → b ∉ host ++ colon :: port := by
      intro b hb h
      rcases List.mem_append.mp h with h | h
      · exact hb.elim (hhost b h).1 (hhost b h).2
      · rcases List.mem_cons.mp h with h | h
        · rw [h] at hb
          exact absurd hb (by decide)
        · exact hb.elim (hport b h).2.1 (hport b h).2.2
    have hhead : (host ++ colon :: port).head? ≠ some lbracket := by
      intro h
      exact hnone lbracket (.inl rfl) (List.mem_of_mem_head? h)
    rw [if_neg hc, heq, if_neg (by simp)]
    dsimp only
    rw [last_colon _ hp, take_before, if_neg hhead, if_neg hc, if_neg]
    rintro (h | h)
    · exact hnone lbracket (.inl rfl) h
    · exact hnone rbracket (.inr rfl) h

end

/-! ## ports -/

theorem itoa_not_separator (n : Nat) : ∀ c ∈ itoa n, c ≠ colon ∧ c ≠ lbracket ∧ c ≠ rbracket := by
  intro c hc
  have hd := itoa_all_digit n c hc
  refine ⟨?_, ?_, ?_⟩
  · rintro rfl
    exact absurd hd (by decide)
  · rintro rfl
    exact absurd hd (by decide)
  · rintro rfl
    exact absurd hd (by decide)

theorem splitHostPort_ipString {ip : IP} (h : ip.length = 4 ∨ ip.length = 16) (port : Nat) :
    splitHostPort (joinHostPort (ipString ip) (itoa port)) = some (ipString ip, itoa port) :=
  splitHostPort_join _ _ (fun c hc => addrChar_not_bracket (mem_ipString h c hc)) (itoa_not_separator port)

theorem atoi_itoa {n : Nat} (h : n < 2 ^ 63) : atoi (itoa n) = some (n : Int) := by
  have hd := itoa_all_digit n
  have hne : itoa n ≠ [] := formatUint_ne_nil 10 n
  have hsign : ∀ c, isDigit c = false → (itoa n).head? ≠ some c := by
    intro c hc hh
    have := hd c (List.mem_of_mem_head? hh)
    rw [hc] at this
    exact nomatch this
  have hval : digitsVal 10 (itoa n) = n := digitsVal_formatUint (by norm_num) (by norm_num) n
  have hplain : ¬ ((itoa n).head? = some 45 ∨ (itoa n).head? = some 43) := by
    rintro (h | h)
    · exact hsign 45 (by decide) h
    · exact hsign 43 (by decide) h
  unfold atoi
  dsimp only
  rw [if_neg hplain,
    if_pos ⟨hne, List.all_eq_true.mpr hd⟩, if_neg (hsign 45 (by decide)), hval,
    if_pos ⟨by omega, by omega⟩]

theorem eq_of_atoi_itoa {n : Nat} {m : Int} (h : atoi (itoa n) = some m) : m = n := by
  have hd := itoa_all_digit n
  have hsign : ∀ c, isDigit c = false → (itoa n).head? ≠ some c := by
    intro c hc hh
    have hc' := hd c (List.mem_of_mem_head? hh)
    rw [hc] at hc'
    cases hc'
  have hval : digitsVal 10 (itoa n) = n := digitsVal_formatUint (by norm_num) (by norm_num) n
  have hplain : ¬ ((itoa n).head? = some 45 ∨ (itoa n).head? = some 43) := by
    rintro (h | h)
    · exact hsign 45 (by decide) h
    · exact hsign 43 (by decide) h
  unfold atoi at h
  dsimp only at h
  rw [if_neg hplain, if_neg (hsign 45 (by decide)), hval] at h
  split at h
  · split at h
    · exact (Option.some.inj h).symm
    · cases h
  · cases h

end Go
