import BillVpn.Go.Netip
import Mathlib.Data.List.TakeWhile

/-!
# The text of an address reads back as the address

`parseAddr_text`: `netip.ParseAddr(a.String())` is `a`, for IPv4, IPv6, mapped and zoned addresses;
hence `Addr.String()` is injective (`text_injective`), which is what a map keyed by address text
needs.  The IPv6 part follows the parser's loop: a colon-separated list of groups is read group by
group (`loop6_groups`), and a `::` in front of it or inside it stands for the groups left out.
-/

set_option linter.unusedVariables false
set_option linter.unusedSimpArgs false

namespace Go

/-! ## numbers -/

theorem digitChar_isHex (d : Nat) (h : d < 16) : isHex d.digitChar.toUInt8 = true := by
  interval_cases d <;> decide

theorem hexVal_digitChar (d : Nat) (h : d < 16) : hexVal d.digitChar.toUInt8 = d := by
  interval_cases d <;> decide

theorem formatUint_of_lt {b n : Nat} (h : n < b) : formatUint b n = [n.digitChar.toUInt8] := by
  unfold formatUint
  rw [Nat.toDigits_of_lt_base h]
  rfl

theorem formatUint_of_le {b n : Nat} (hb : 1 < b) (h : b ≤ n) :
    formatUint b n = formatUint b (n / b) ++ [(n % b).digitChar.toUInt8] := by
  unfold formatUint
  rw [Nat.toDigits_of_base_le hb h, List.map_append]
  rfl

theorem formatUint_ne_nil (b n : Nat) : formatUint b n ≠ [] := by
  unfold formatUint
  simp [Nat.toDigits_ne_nil]

theorem digitsVal_append_one (b : Nat) (s : Bytes) (c : UInt8) :
    digitsVal b (s ++ [c]) = digitsVal b s * b + hexVal c := by
  simp [digitsVal, List.foldl_append]

theorem digitsVal_formatUint {b : Nat} (hb : 1 < b) (hb16 : b ≤ 16) (n : Nat) :
    digitsVal b (formatUint b n) = n := by
  induction n using Nat.strong_induction_on with
  | _ n ih =>
    by_cases h : n < b
    · rw [formatUint_of_lt h]
      show 0 * b + hexVal n.digitChar.toUInt8 = n
      rw [hexVal_digitChar n (by omega)]
      omega
    · have hlt : n / b < n := Nat.div_lt_self (by omega) hb
      have hm : n % b < 16 := lt_of_lt_of_le (Nat.mod_lt _ (by omega)) hb16
      rw [formatUint_of_le hb (by omega), digitsVal_append_one, ih _ hlt, hexVal_digitChar _ hm,
        Nat.mul_comm]
      exact Nat.div_add_mod n b

theorem formatUint_all_hex {b : Nat} (hb : 1 < b) (hb16 : b ≤ 16) (n : Nat) :
    ∀ c ∈ formatUint b n, isHex c = true := by
  induction n using Nat.strong_induction_on with
  | _ n ih =>
    intro c hc
    by_cases h : n < b
    · rw [formatUint_of_lt h, List.mem_singleton] at hc
      rw [hc]
      exact digitChar_isHex n (by omega)
    · rw [formatUint_of_le hb (by omega)] at hc
      rcases List.mem_append.mp hc with h1 | h1
      · exact ih _ (Nat.div_lt_self (by omega) hb) c h1
      · rw [List.mem_singleton] at h1
        rw [h1]
        exact digitChar_isHex _ (lt_of_lt_of_le (Nat.mod_lt _ (by omega)) hb16)

theorem length_formatUint_le {b n k : Nat} (hb : 1 < b) (hk : 0 < k) (h : n < b ^ k) :
    (formatUint b n).length ≤ k := by
  unfold formatUint
  rw [List.length_map]
  exact (Nat.length_toDigits_le_iff hb hk).mpr h

/-! ## dotted decimal -/

theorem itoa_all_digit (n : Nat) : ∀ c ∈ itoa n, isDigit c = true := by
  have hdigit : ∀ m : Fin 10, isDigit (Nat.digitChar m.val).toUInt8 = true := by decide
  induction n using Nat.strong_induction_on with
  | _ n ih =>
    intro c hc
    unfold itoa at hc
    by_cases h : n < 10
    · rw [formatUint_of_lt h, List.mem_singleton] at hc
      rw [hc]
      exact hdigit ⟨n, h⟩
    · rw [formatUint_of_le (by norm_num) (by omega)] at hc
      rcases List.mem_append.mp hc with h1 | h1
      · exact ih (n / 10) (by omega) c h1
      · rw [List.mem_singleton.mp h1]
        exact hdigit ⟨n % 10, Nat.mod_lt n (by norm_num)⟩

theorem atoiNat_itoa (n : Nat) : atoiNat (itoa n) = some n := by
  unfold atoiNat
  rw [if_pos ⟨formatUint_ne_nil 10 n, List.all_eq_true.mpr (itoa_all_digit n)⟩]
  exact congrArg some (digitsVal_formatUint (by norm_num) (by norm_num) n)

theorem itoa_head {n : Nat} (h : 0 < n) : (itoa n).head? ≠ some 48 := by
  have hdigit : ∀ m : Fin 10, 0 < m.val → (Nat.digitChar m.val).toUInt8 ≠ 48 := by decide
  induction n using Nat.strong_induction_on with
  | _ n ih =>
    unfold itoa
    by_cases h10 : n < 10
    · rw [formatUint_of_lt h10, List.head?_cons]
      exact fun he => hdigit ⟨n, h10⟩ h (Option.some.inj he)
    · have hfront := ih (n / 10) (by omega) (by omega)
      rw [formatUint_of_le (by norm_num) (by omega), List.head?_append_of_ne_nil _ (formatUint_ne_nil _ _)]
      exact hfront

theorem octet_itoa (n : Nat) (h : n < 256) : octet (itoa n) = some n := by
  have hval : digitsVal 10 (itoa n) = n := digitsVal_formatUint (by norm_num) (by norm_num) n
  have hzero : (itoa n).length = 1 ∨ (itoa n).head? ≠ some 48 := by
    rcases Nat.eq_zero_or_pos n with rfl | hpos
    · exact .inl (by decide)
    · exact .inr (itoa_head hpos)
  unfold octet
  rw [if_pos ⟨formatUint_ne_nil 10 n, List.all_eq_true.mpr (itoa_all_digit n), hzero, by omega⟩, hval]

theorem dot_notMem_itoa (n : Nat) : dot ∉ itoa n := by
  intro h
  have := formatUint_all_hex (by norm_num) (by norm_num) n dot h
  exact absurd this (by decide)

theorem parse4Fields_dotted (n : Nat) (h : n < 2 ^ 32) : parse4Fields (dotted n) = some n := by
  have hsplit : (dotted n).splitOn dot = [itoa (n / 2 ^ 24 % 256), itoa (n / 2 ^ 16 % 256),
      itoa (n / 2 ^ 8 % 256), itoa (n % 256)] := by
    unfold dotted
    apply List.splitOn_intercalate
    · intro l hl
      simp only [List.mem_cons, List.not_mem_nil, or_false] at hl
      rcases hl with rfl | rfl | rfl | rfl <;> exact dot_notMem_itoa _
    · simp
  unfold parse4Fields
  rw [hsplit]
  simp only [List.mapM_cons, List.mapM_nil, octet_itoa _ (Nat.mod_lt _ (by norm_num : 0 < 256)),
    Option.pure_def, Option.bind_eq_bind, Option.bind_some]
  congr 1
  omega

/-! ## one group -/

theorem hexField_formatUint (g : Nat) (hg : g < 65536) (rest : Bytes)
    (hr : ∀ c ∈ rest.head?, isHex c = false) :
    hexField (formatUint 16 g ++ rest) = some (g, rest) := by
  have hall := formatUint_all_hex (by norm_num) (by norm_num : 16 ≤ 16) g
  have hlen : (formatUint 16 g).length ≤ 4 :=
    length_formatUint_le (by norm_num) (by norm_num) (by norm_num; exact hg)
  have hrest : rest.takeWhile isHex = [] ∧ rest.dropWhile isHex = rest := by
    cases rest with
    | nil => exact ⟨rfl, rfl⟩
    | cons c cs =>
      have hc : isHex c = false := hr c (by simp)
      simp [List.takeWhile_cons, List.dropWhile_cons, hc]
  have ht : (formatUint 16 g ++ rest).takeWhile isHex = formatUint 16 g := by
    rw [List.takeWhile_append_of_pos hall, hrest.1, List.append_nil]
  have hd : (formatUint 16 g ++ rest).dropWhile isHex = rest := by
    rw [List.dropWhile_append_of_pos hall, hrest.2]
  unfold hexField
  rw [ht, hd]
  have hne := formatUint_ne_nil 16 g
  have hcond : ¬ (formatUint 16 g = [] ∨ 4 < (formatUint 16 g).length) := by
    rintro (h | h)
    · exact hne h
    · omega
  simp only [hcond, if_false, digitsVal_formatUint (by norm_num : 1 < 16) (le_refl 16) g]

theorem hexGroups_cons_cons (g g' : Nat) (gs : List Nat) :
    hexGroups (g :: g' :: gs) = formatUint 16 g ++ colon :: hexGroups (g' :: gs) := by
  unfold hexGroups
  rw [List.map_cons, List.map_cons, List.intercalate_cons_cons]
  simp

theorem hexGroups_singleton (g : Nat) : hexGroups [g] = formatUint 16 g := by
  unfold hexGroups
  simp

theorem hexGroups_head (g : Nat) (gs : List Nat) (s : Bytes) :
    ∃ c t, hexGroups (g :: gs) ++ s = c :: t ∧ isHex c = true := by
  have hall := formatUint_all_hex (by norm_num) (by norm_num : 16 ≤ 16) g
  obtain ⟨c, t, hct⟩ := List.exists_cons_of_ne_nil (formatUint_ne_nil 16 g)
  have hc : isHex c = true := hall c (by rw [hct]; exact List.mem_cons_self)
  cases gs with
  | nil => exact ⟨c, t ++ s, by rw [hexGroups_singleton, hct]; rfl, hc⟩
  | cons g' gs =>
    exact ⟨c, t ++ (colon :: hexGroups (g' :: gs)) ++ s, by
      rw [hexGroups_cons_cons, hct]; simp, hc⟩

theorem isHex_colon : isHex colon = false := by decide
theorem isHex_dot : isHex dot = false := by decide
theorem isHex_percent : isHex percent = false := by decide

/-! ## the loop on rendered groups -/

theorem loop6_step (k g : Nat) (hg : g < 65536) (c : UInt8) (t : Bytes) (hc : isHex c = true)
    (acc : List Nat) (e : Option Nat) :
    loop6 (k + 1) (formatUint 16 g ++ colon :: c :: t) acc e = loop6 k (c :: t) (acc ++ [g]) e := by
  have hne : c ≠ colon := fun h => by rw [h, isHex_colon] at hc; cases hc
  have hcd : ¬ (colon = dot) := by decide
  rw [loop6, hexField_formatUint g hg (colon :: c :: t)
    (by intro x hx; simp at hx; rw [← hx]; exact isHex_colon)]
  simp only [hcd, if_false, ne_eq, not_true_eq_false, hne]

theorem loop6_groups (gs : List Nat) (hne : gs ≠ []) (hlt : ∀ g ∈ gs, g < 65536) :
    ∀ (k : Nat) (acc : List Nat) (e : Option Nat), gs.length ≤ k →
      loop6 k (hexGroups gs) acc e = some (acc ++ gs, e, []) := by
  induction gs with
  | nil => exact absurd rfl hne
  | cons g gs ih =>
    intro k acc e hk
    obtain ⟨k, rfl⟩ : ∃ k', k = k' + 1 := ⟨k - 1, by simp only [List.length_cons] at hk; omega⟩
    have hg := hlt g List.mem_cons_self
    cases gs with
    | nil =>
      rw [hexGroups_singleton, loop6]
      have := hexField_formatUint g hg [] (by simp)
      rw [List.append_nil] at this
      rw [this]
    | cons g' gs =>
      obtain ⟨c, t, hct, hc⟩ := hexGroups_head g' gs []
      rw [List.append_nil] at hct
      rw [hexGroups_cons_cons, hct, loop6_step k g hg c t hc, ← hct,
        ih (by simp) (fun x hx => hlt x (List.mem_cons_of_mem _ hx)) k (acc ++ [g]) e
          (by simp only [List.length_cons] at hk ⊢; omega)]
      simp

theorem loop6_ellipsis (before after : List Nat) (hne : before ≠ [])
    (hb : ∀ g ∈ before, g < 65536) (ha : ∀ g ∈ after, g < 65536) :
    ∀ (k : Nat) (acc : List Nat), before.length + after.length ≤ k →
      loop6 k (hexGroups before ++ [colon, colon] ++ hexGroups after) acc none
        = some (acc ++ before ++ after, some (acc.length + before.length), []) := by
  induction before with
  | nil => exact absurd rfl hne
  | cons g before ih =>
    intro k acc hk
    obtain ⟨k, rfl⟩ : ∃ k', k = k' + 1 := ⟨k - 1, by simp only [List.length_cons] at hk; omega⟩
    have hg := hb g List.mem_cons_self
    cases before with
    | nil =>
      have hcd : ¬ (colon = dot) := by decide
      rw [hexGroups_singleton, List.append_assoc, loop6,
        hexField_formatUint g hg ([colon, colon] ++ hexGroups after)
          (by intro x hx; simp at hx; rw [← hx]; exact isHex_colon)]
      cases after with
      | nil => simp [hcd, hexGroups]
      | cons a after =>
        obtain ⟨c, t, hct, hc⟩ := hexGroups_head a after []
        rw [List.append_nil] at hct
        have hrest : hexGroups (a :: after) ≠ [] := by rw [hct]; simp
        simp only [List.cons_append, List.nil_append, hcd, if_false, ne_eq, not_true_eq_false,
          if_true, Option.isSome_none, Bool.false_eq_true, hrest]
        rw [loop6_groups (a :: after) (by simp) ha k (acc ++ [g]) _
          (by simp only [List.length_cons, List.length_nil] at hk ⊢; omega)]
        simp
    | cons g' before =>
      obtain ⟨c, t, hct, hc⟩ := hexGroups_head g' before ([colon, colon] ++ hexGroups after)
      rw [hexGroups_cons_cons, List.append_assoc, List.append_assoc, List.cons_append, hct,
        loop6_step k g hg c t hc, ← hct, ← List.append_assoc,
        ih (by simp) (fun x hx => hb x (List.mem_cons_of_mem _ hx)) k (acc ++ [g])
          (by simp only [List.length_cons] at hk ⊢; omega)]
      simp
      omega

/-! ## the cut run of zeros -/

theorem zeros_spec (gs : List Nat) : gs.take (zeros gs) = List.replicate (zeros gs) 0 := by
  have hp : gs.take (zeros gs) = gs.takeWhile (· == 0) :=
    (List.prefix_iff_eq_take.mp (List.takeWhile_prefix _)).symm
  rw [hp]
  refine List.eq_replicate_iff.mpr ⟨rfl, ?_⟩
  intro b hb
  have := List.mem_takeWhile_imp hb
  simpa using this

/-- what the scan keeps: a run of zeros inside the list -/
def IsRun (gs : List Nat) (r : Nat × Nat) : Prop :=
  r.1 + 2 ≤ r.2 ∧ r.2 ≤ gs.length ∧ (gs.take r.2).drop r.1 = List.replicate (r.2 - r.1) 0

theorem zeroRun_spec (gs : List Nat) : ∀ r ∈ zeroRun gs, IsRun gs r := by
  unfold zeroRun
  apply List.foldlRecOn (motive := fun best => ∀ r ∈ best, IsRun gs r)
  · intro r hr; cases hr
  · intro best hbest i hi r hr
    simp only at hr
    split at hr
    · rename_i h
      simp only [Option.mem_def, Option.some.injEq] at hr
      subst hr
      have hl : zeros (gs.drop i) ≤ (gs.drop i).length := by
        unfold zeros; exact (List.takeWhile_prefix _).length_le
      rw [List.length_drop] at hl
      have hi' := List.mem_range.mp hi
      refine ⟨by simp only; omega, by simp only; omega, ?_⟩
      rw [List.drop_take, Nat.add_sub_cancel_left]
      exact zeros_spec _
    · exact hbest r hr

theorem run_expand {gs : List Nat} {s e : Nat} (h : IsRun gs (s, e)) :
    gs.take s ++ List.replicate (e - s) 0 ++ gs.drop e = gs := by
  obtain ⟨h1, h2, h3⟩ := h
  simp only at h1 h2 h3
  rw [← h3]
  have e1 : gs.take s = (gs.take e).take s := by rw [List.take_take]; congr 1; omega
  rw [e1, List.take_append_drop, List.take_append_drop]

/-! ## IPv6 text -/

theorem parse6Groups_of_hex {c : UInt8} {t : Bytes} (hc : isHex c = true) :
    parse6Groups (c :: t) = finish6 (loop6 8 (c :: t) [] none) := by
  have hne : c ≠ 58 := fun h => by rw [h] at hc; exact absurd hc (by decide)
  unfold parse6Groups
  split
  · rename_i h; simp only [List.cons.injEq] at h; exact absurd h.1 hne
  · rename_i h; simp only [List.cons.injEq] at h; exact absurd h.1 hne
  · rfl

theorem finish6_full {gs : List Nat} (h : gs.length = 8) : finish6 (some (gs, none, [])) = some gs := by
  simp [finish6, h]

theorem finish6_short (before after : List Nat) (h : before.length + after.length < 8) :
    finish6 (some (before ++ after, some before.length, []))
      = some (before ++ List.replicate (8 - (before.length + after.length)) 0 ++ after) := by
  simp [finish6, h]

theorem parse6Groups_text6 (gs : List Nat) (h8 : gs.length = 8) (hlt : ∀ g ∈ gs, g < 65536) :
    parse6Groups (text6 gs) = some gs := by
  unfold text6
  cases hz : zeroRun gs with
  | none =>
    obtain ⟨g, gs', rfl⟩ := List.exists_cons_of_length_pos (by omega : 0 < gs.length)
    obtain ⟨c, t, hct, hc⟩ := hexGroups_head g gs' []
    rw [List.append_nil] at hct
    simp only
    rw [hct, parse6Groups_of_hex hc, ← hct, loop6_groups (g :: gs') (by simp) hlt 8 [] none (by omega),
      List.nil_append, finish6_full h8]
  | some r =>
    obtain ⟨s, e⟩ := r
    have hrun := zeroRun_spec gs (s, e) hz
    obtain ⟨h1, h2, h3⟩ := hrun
    simp only at h1 h2
    have hbef : ∀ g ∈ gs.take s, g < 65536 := fun g hg => hlt g (List.mem_of_mem_take hg)
    have haft : ∀ g ∈ gs.drop e, g < 65536 := fun g hg => hlt g (List.mem_of_mem_drop hg)
    have hls : (gs.take s).length = s := by rw [List.length_take]; omega
    have hle : (gs.drop e).length = 8 - e := by rw [List.length_drop, h8]
    have hexp := run_expand (zeroRun_spec gs (s, e) hz)
    simp only
    cases hb : gs.take s with
    | nil =>
      -- the text starts with the two colons
      have hs0 : s = 0 := by rw [hb] at hls; exact hls.symm
      cases ha : gs.drop e with
      | nil =>
        rw [hb, ha, List.nil_append, List.append_nil] at hexp
        have he8 : e - s = 8 := by rw [← h8, ← hexp, List.length_replicate]
        rw [← hexp, he8]
        rfl
      | cons a after =>
        obtain ⟨c, t, hct, hc⟩ := hexGroups_head a after []
        rw [List.append_nil] at hct
        rw [hb, ha, List.nil_append] at hexp
        rw [ha] at hle haft
        have hgo : parse6Groups (hexGroups [] ++ [colon, colon] ++ hexGroups (a :: after))
            = finish6 (loop6 8 (hexGroups (a :: after)) [] (some 0)) := by rw [hct]; rfl
        have hf := finish6_short [] (a :: after)
          (by rw [hle]; simp only [List.length_nil]; omega)
        have h0 : 8 - (([] : List Nat).length + (8 - e)) = e - s := by
          rw [List.length_nil]; omega
        rw [hgo, loop6_groups (a :: after) (by simp) haft 8 [] (some 0) (by rw [hle]; omega)]
        rw [hle, h0, List.nil_append, List.nil_append, hexp] at hf
        exact hf
    | cons b before =>
      obtain ⟨c, t, hct, hc⟩ := hexGroups_head b before ([colon, colon] ++ hexGroups (gs.drop e))
      rw [hb] at hls hbef hexp
      have hf := finish6_short (b :: before) (gs.drop e)
        (by rw [hls, hle]; omega)
      rw [List.append_assoc, hct, parse6Groups_of_hex hc, ← hct, ← List.append_assoc,
        loop6_ellipsis (b :: before) (gs.drop e) (by simp) hbef haft 8 [] (by rw [hls, hle]; omega)]
      simp only [List.nil_append, List.length_nil, Nat.zero_add]
      rw [hf, hls, hle]
      have : 8 - (s + (8 - e)) = e - s := by omega
      rw [this, hexp]

/-! ## addresses -/

theorem groups_length (n : Nat) : (groups n).length = 8 := rfl

theorem groups_lt (n : Nat) : ∀ g ∈ groups n, g < 65536 := by
  intro g hg
  simp only [groups, List.mem_cons, List.not_mem_nil, or_false] at hg
  rcases hg with rfl | rfl | rfl | rfl | rfl | rfl | rfl | rfl <;>
    exact Nat.mod_lt _ (by norm_num)

theorem ofGroups_groups (n : Nat) (h : n < 2 ^ 128) : ofGroups (groups n) = n := by
  -- one group at a time, from the top
  have hnext : ∀ k, n / 2 ^ (k + 16) * 65536 + n / 2 ^ k % 65536 = n / 2 ^ k := by
    intro k
    rw [Nat.pow_add, ← Nat.div_div_eq_div_mul]
    exact Nat.div_add_mod' (n / 2 ^ k) 65536
  have htop : n / 2 ^ 112 % 65536 = n / 2 ^ 112 :=
    Nat.mod_eq_of_lt (Nat.div_lt_of_lt_mul (lt_of_lt_of_eq h (by norm_num)))
  have hlast : n / 2 ^ 16 * 65536 + n % 65536 = n := Nat.div_add_mod' n 65536
  simp only [ofGroups, groups, List.foldl_cons, List.foldl_nil, Nat.zero_mul, Nat.zero_add]
  rw [htop, hnext 96, hnext 80, hnext 64, hnext 48, hnext 32, hnext 16, hlast]

theorem dotted_eq (n : Nat) : ∃ t, dotted n = itoa (n / 2 ^ 24 % 256) ++ dot :: t := by
  unfold dotted
  rw [List.intercalate_cons_cons, List.append_assoc, List.singleton_append]
  exact ⟨_, rfl⟩

theorem itoa_all_hex (n : Nat) : ∀ c ∈ itoa n, isHex c = true :=
  formatUint_all_hex (by norm_num) (by norm_num) n

theorem hexField_dotted (n : Nat) : ∃ acc t, hexField (dotted n) = some (acc, dot :: t) := by
  obtain ⟨t, ht⟩ := dotted_eq n
  have hall := itoa_all_hex (n / 2 ^ 24 % 256)
  have hlen : (itoa (n / 2 ^ 24 % 256)).length ≤ 3 :=
    length_formatUint_le (by norm_num) (by norm_num) (by omega)
  have hne : itoa (n / 2 ^ 24 % 256) ≠ [] := formatUint_ne_nil _ _
  have hw : (itoa (n / 2 ^ 24 % 256) ++ dot :: t).takeWhile isHex = itoa (n / 2 ^ 24 % 256) := by
    rw [List.takeWhile_append_of_pos hall, List.takeWhile_cons, isHex_dot]
    simp
  have hd : (itoa (n / 2 ^ 24 % 256) ++ dot :: t).dropWhile isHex = dot :: t := by
    rw [List.dropWhile_append_of_pos hall, List.dropWhile_cons, isHex_dot]
    simp
  have hcond : ¬ (itoa (n / 2 ^ 24 % 256) = [] ∨ 4 < (itoa (n / 2 ^ 24 % 256)).length) := by
    rintro (h | h)
    · exact hne h
    · omega
  refine ⟨digitsVal 16 (itoa (n / 2 ^ 24 % 256)), t, ?_⟩
  unfold hexField
  rw [ht, hw, hd]
  simp only [hcond, if_false]

theorem parse6Groups_mapped (n : Nat) (h : n < 2 ^ 32) :
    parse6Groups (lit "::ffff:" ++ dotted n)
      = some [0, 0, 0, 0, 0, 0xffff, n / 65536, n % 65536] := by
  have hlit : lit "::ffff:" = [58, 58] ++ (formatUint 16 0xffff ++ [colon]) := by decide
  obtain ⟨acc, t, hf⟩ := hexField_dotted n
  obtain ⟨u, hu⟩ := dotted_eq n
  have hall := itoa_all_hex (n / 2 ^ 24 % 256)
  obtain ⟨c, v, hcv⟩ : ∃ c v, itoa (n / 2 ^ 24 % 256) = c :: v :=
    List.exists_cons_of_ne_nil (formatUint_ne_nil 10 _)
  have hc : isHex c = true := hall c (by rw [hcv]; exact List.mem_cons_self)
  have hhead : dotted n = c :: (v ++ dot :: u) := by rw [hu, hcv]; rfl
  have hstart : parse6Groups (lit "::ffff:" ++ dotted n)
      = finish6 (loop6 8 (formatUint 16 0xffff ++ colon :: dotted n) [] (some 0)) := by
    rw [hlit]
    show parse6Groups (58 :: 58 :: (formatUint 16 0xffff ++ [colon] ++ dotted n)) = _
    rw [List.append_assoc, List.singleton_append]
    rfl
  have hstep : loop6 7 (dotted n) [0xffff] (some 0)
      = some ([0xffff, n / 65536, n % 65536], some 0, []) := by
    rw [loop6, hf]
    simp [parse4Fields_dotted n h]
  rw [hstart, hhead, loop6_step 7 0xffff (by norm_num) c _ hc, ← hhead, List.nil_append, hstep]
  rfl

/-! ### the family and the zone -/

theorem find_separator {s : Bytes} (hs : ∀ c ∈ s, isHex c = true) {c : UInt8}
    (hc : c = dot ∨ c = colon) (t : Bytes) :
    (s ++ c :: t).find? (fun c => c == dot || c == colon || c == percent) = some c := by
  have hnone : s.find? (fun c => c == dot || c == colon || c == percent) = none := by
    rw [List.find?_eq_none]
    intro x hx
    have h := hs x hx
    have h1 : x ≠ dot := fun e => by rw [e, isHex_dot] at h; cases h
    have h2 : x ≠ colon := fun e => by rw [e, isHex_colon] at h; cases h
    have h3 : x ≠ percent := fun e => by rw [e, isHex_percent] at h; cases h
    simp [h1, h2, h3]
  rw [List.find?_append, hnone, Option.none_or]
  rcases hc with rfl | rfl <;> rfl

theorem mem_intercalate_one {x c : UInt8} {ls : List Bytes} (h : c ∈ [x].intercalate ls) :
    c = x ∨ ∃ l ∈ ls, c ∈ l := by
  induction ls with
  | nil => rw [List.intercalate_nil] at h; cases h
  | cons l ls ih =>
    cases ls with
    | nil =>
      rw [List.intercalate_singleton] at h
      exact Or.inr ⟨l, List.mem_cons_self, h⟩
    | cons l' ls =>
      rw [List.intercalate_cons_cons, List.append_assoc] at h
      rcases List.mem_append.mp h with h | h
      · exact Or.inr ⟨l, List.mem_cons_self, h⟩
      · rcases List.mem_append.mp h with h | h
        · exact Or.inl (List.mem_singleton.mp h)
        · rcases ih h with h | ⟨m, hm, h⟩
          · exact Or.inl h
          · exact Or.inr ⟨m, List.mem_cons_of_mem _ hm, h⟩

/-- what addresses are written with -/
def AddrChar (c : UInt8) : Prop := isHex c = true ∨ c = dot ∨ c = colon

theorem addrChar_dotted (n : Nat) : ∀ c ∈ dotted n, AddrChar c := by
  intro c h
  rcases mem_intercalate_one h with h | ⟨l, hl, h⟩
  · exact .inr (.inl h)
  · simp only [List.mem_cons, List.not_mem_nil, or_false] at hl
    rcases hl with rfl | rfl | rfl | rfl <;> exact .inl (itoa_all_hex _ _ h)

theorem addrChar_hexGroups (gs : List Nat) : ∀ c ∈ hexGroups gs, AddrChar c := by
  intro c h
  rcases mem_intercalate_one h with h | ⟨l, hl, h⟩
  · exact .inr (.inr h)
  · obtain ⟨g, _, rfl⟩ := List.mem_map.mp hl
    exact .inl (formatUint_all_hex (by norm_num) (Nat.le_refl 16) g _ h)

theorem addrChar_text6 (gs : List Nat) : ∀ c ∈ text6 gs, AddrChar c := by
  unfold text6
  cases zeroRun gs with
  | none => exact addrChar_hexGroups gs
  | some r =>
    intro c h
    simp only [List.append_assoc, List.mem_append] at h
    rcases h with h | h | h
    · exact addrChar_hexGroups _ c h
    · simp only [List.mem_cons, List.not_mem_nil, or_false, or_self] at h
      exact .inr (.inr h)
    · exact addrChar_hexGroups _ c h

theorem addrChar_mapped : ∀ c ∈ lit "::ffff:", AddrChar c := by
  intro c hc
  have hchars : lit "::ffff:" = [colon, colon, 102, 102, 102, 102, colon] := by decide
  rw [hchars] at hc
  simp only [List.mem_cons, List.not_mem_nil, or_false] at hc
  rcases hc with h | h | h | h | h | h | h
  · exact .inr (.inr h)
  · exact .inr (.inr h)
  · exact .inl (by rw [h]; decide)
  · exact .inl (by rw [h]; decide)
  · exact .inl (by rw [h]; decide)
  · exact .inl (by rw [h]; decide)
  · exact .inr (.inr h)

theorem percent_notMem {s : Bytes} (h : ∀ c ∈ s, AddrChar c) : percent ∉ s := by
  intro hp
  rcases h percent hp with hx | hd | hc
  · rw [isHex_percent] at hx
    cases hx
  · exact absurd hd (by decide)
  · exact absurd hc (by decide)

theorem parse6_zone {body : Bytes} (hb : percent ∉ body) (z : Bytes) :
    parse6 (body ++ zoneText z) = (parse6Groups body).bind (addr6 · z) := by
  have hall : ∀ c ∈ body, (c != percent) = true := by
    intro c hc
    rw [bne_iff_ne]
    exact fun e => hb (e ▸ hc)
  unfold parse6
  rw [List.takeWhile_append_of_pos hall, List.dropWhile_append_of_pos hall]
  cases z with
  | nil => simp [zoneText]
  | cons c z => simp [zoneText]

theorem text6_eq (gs : List Nat) (h8 : gs.length = 8) :
    ∃ s t, text6 gs = s ++ colon :: t ∧ ∀ c ∈ s, isHex c = true := by
  have hhex := formatUint_all_hex (by norm_num) (by norm_num : 16 ≤ 16)
  have hgroups : ∀ (hs : List Nat) (u : Bytes), ∃ s t,
      hexGroups hs ++ colon :: u = s ++ colon :: t ∧ ∀ c ∈ s, isHex c = true := by
    intro hs u
    match hs with
    | [] => exact ⟨[], u, rfl, by simp⟩
    | [g] => exact ⟨formatUint 16 g, u, by rw [hexGroups_singleton], hhex g⟩
    | g :: g' :: hs =>
      exact ⟨formatUint 16 g, hexGroups (g' :: hs) ++ colon :: u,
        by rw [hexGroups_cons_cons]; simp, hhex g⟩
  unfold text6
  cases zeroRun gs with
  | none =>
    match gs, h8 with
    | g :: g' :: gs, _ => exact ⟨formatUint 16 g, hexGroups (g' :: gs), hexGroups_cons_cons g g' gs, hhex g⟩
  | some r =>
    obtain ⟨s, t, hst, hs⟩ := hgroups (gs.take r.1) (colon :: hexGroups (gs.drop r.2))
    exact ⟨s, t, by rw [← hst]; simp, hs⟩

theorem addr6_eq {gs : List Nat} {n : Fin (2 ^ 128)} (h : ofGroups gs = n.val) (z : Bytes) :
    addr6 gs z = some (.v6 n z) := by
  have hlt : ofGroups gs < 2 ^ 128 := h ▸ n.isLt
  have he : (⟨ofGroups gs, hlt⟩ : Fin (2 ^ 128)) = n := Fin.ext h
  unfold addr6
  rw [dif_pos hlt, he]

/-- **`netip.ParseAddr(a.String())` is `a`.** -/
theorem parseAddr_text (a : Addr) : parseAddr a.text = some a := by
  cases a with
  | v4 n =>
    obtain ⟨t, ht⟩ := dotted_eq n.val
    show parseAddr (dotted n.val) = _
    unfold parseAddr
    rw [ht, find_separator (itoa_all_hex _) (Or.inl rfl) t, ← ht]
    simp only [if_true]
    unfold parse4
    rw [parse4Fields_dotted n.val n.isLt]
    exact dif_pos n.isLt
  | v6 n z =>
    by_cases h : n.val / 2 ^ 32 = 0xffff
    · have htext : (Addr.v6 n z).text = lit "::ffff:" ++ dotted (n.val % 2 ^ 32) ++ zoneText z :=
        if_pos h
      have hlit : lit "::ffff:" = [] ++ colon :: lit ":ffff:" := by decide
      have hmod : n.val % 2 ^ 32 < 2 ^ 32 := Nat.mod_lt _ (by norm_num)
      have hpct : percent ∉ lit "::ffff:" ++ dotted (n.val % 2 ^ 32) :=
        percent_notMem fun c hc => (List.mem_append.mp hc).elim (addrChar_mapped c) (addrChar_dotted _ c)
      have hfind := find_separator (s := []) (by simp) (Or.inr rfl : colon = dot ∨ colon = colon)
        (lit ":ffff:" ++ dotted (n.val % 2 ^ 32) ++ zoneText z)
      unfold parseAddr
      rw [htext]
      rw [show lit "::ffff:" ++ dotted (n.val % 2 ^ 32) ++ zoneText z
        = [] ++ colon :: (lit ":ffff:" ++ dotted (n.val % 2 ^ 32) ++ zoneText z) by
          rw [hlit]; simp] at *
      rw [hfind]
      simp only [show ¬ (colon = dot) by decide, if_false, if_true]
      rw [show [] ++ colon :: (lit ":ffff:" ++ dotted (n.val % 2 ^ 32) ++ zoneText z)
        = lit "::ffff:" ++ dotted (n.val % 2 ^ 32) ++ zoneText z by rw [hlit]; simp,
        parse6_zone hpct, parse6Groups_mapped _ hmod, Option.bind_some]
      apply addr6_eq
      simp only [ofGroups, List.foldl_cons, List.foldl_nil]
      omega
    · have htext : (Addr.v6 n z).text = text6 (groups n.val) ++ zoneText z := if_neg h
      obtain ⟨s, t, hst, hs⟩ := text6_eq (groups n.val) (groups_length _)
      have hfind : (text6 (groups n.val) ++ zoneText z).find?
          (fun c => c == dot || c == colon || c == percent) = some colon := by
        rw [hst, List.append_assoc, List.cons_append]
        exact find_separator hs (Or.inr rfl) _
      unfold parseAddr
      rw [htext, hfind]
      simp only [show ¬ (colon = dot) by decide, if_false, if_true]
      rw [parse6_zone (percent_notMem (addrChar_text6 _)),
        parse6Groups_text6 _ (groups_length _) (groups_lt _), Option.bind_some]
      exact addr6_eq (ofGroups_groups n.val n.isLt) z

theorem text_injective {a b : Addr} (h : a.text = b.text) : a = b := by
  have ha := parseAddr_text a
  rw [h, parseAddr_text b] at ha
  exact (Option.some.inj ha).symm

theorem text_ne_nil (a : Addr) : a.text ≠ [] := by
  intro h
  have hp := parseAddr_text a
  rw [h] at hp
  cases hp

/-! ## byte slices -/

theorem ofBytes_append (b : Bytes) (c : UInt8) : ofBytes (b ++ [c]) = ofBytes b * 256 + c.toNat := by
  unfold ofBytes
  rw [List.foldl_append]
  rfl

theorem ofBytes_lt (b : Bytes) : ofBytes b < 256 ^ b.length := by
  induction b using List.reverseRecOn with
  | nil => decide
  | append_singleton b c ih =>
    have hc := c.toNat_lt
    rw [ofBytes_append, List.length_append, List.length_singleton, pow_succ]
    omega

theorem addrFromSlice_isSome {ip : IP} (h : ip.length = 4 ∨ ip.length = 16) :
    ∃ a, addrFromSlice ip = some a := by
  have hlt := ofBytes_lt ip
  unfold addrFromSlice
  rcases h with h | h
  · rw [h] at hlt
    rw [if_pos h, dif_pos (by omega)]
    exact ⟨_, rfl⟩
  · rw [h] at hlt
    rw [if_neg (by omega), if_pos h, dif_pos (by omega)]
    exact ⟨_, rfl⟩

theorem ipString_ne_nil {ip : IP} (h : ip ≠ []) : ipString ip ≠ [] := by
  unfold ipString
  rw [if_neg h]
  by_cases hl : ip.length ≠ 4 ∧ ip.length ≠ 16
  · rw [if_pos hl]
    intro hc
    exact absurd (List.append_eq_nil_iff.mp hc).1 (by decide)
  · obtain ⟨a, ha⟩ := addrFromSlice_isSome (show ip.length = 4 ∨ ip.length = 16 by omega)
    rw [if_neg hl, ha]
    exact text_ne_nil _

theorem toBytes_succ (len n : Nat) :
    toBytes (len + 1) n = toBytes len (n / 256) ++ [UInt8.ofNat (n % 256)] := by
  unfold toBytes
  rw [List.range_succ, List.map_append, List.map_singleton]
  congr 1
  · apply List.map_congr_left
    intro i hi
    have hlt := List.mem_range.mp hi
    rw [show len + 1 - 1 - i = len - 1 - i + 1 by omega, pow_succ', Nat.div_div_eq_div_mul]
  · rw [show len + 1 - 1 - len = 0 by omega, pow_zero, Nat.div_one]

@[simp] theorem length_toBytes (len n : Nat) : (toBytes len n).length = len := by
  unfold toBytes
  rw [List.length_map, List.length_range]

theorem ofBytes_toBytes (len : Nat) : ∀ n, n < 256 ^ len → ofBytes (toBytes len n) = n := by
  induction len with
  | zero =>
    intro n hn
    rw [pow_zero] at hn
    rw [Nat.lt_one_iff.mp hn]
    rfl
  | succ len ih =>
    intro n hn
    rw [pow_succ] at hn
    have hb : (UInt8.ofNat (n % 256)).toNat = n % 256 := by simp
    rw [toBytes_succ, ofBytes_append, ih (n / 256) (by omega), hb]
    omega

theorem toBytes_ofBytes (b : Bytes) : toBytes b.length (ofBytes b) = b := by
  induction b using List.reverseRecOn with
  | nil => rfl
  | append_singleton b c ih =>
    have hc := c.toNat_lt
    rw [ofBytes_append, List.length_append, List.length_singleton, toBytes_succ,
      show (ofBytes b * 256 + c.toNat) / 256 = ofBytes b by omega,
      show (ofBytes b * 256 + c.toNat) % 256 = c.toNat by omega, ih, UInt8.ofNat_toNat]

theorem toBytes_add (a b : Nat) : ∀ n, toBytes (a + b) n = toBytes a (n / 256 ^ b) ++ toBytes b n := by
  induction b with
  | zero =>
    intro n
    rw [pow_zero, Nat.div_one]
    exact (List.append_nil _).symm
  | succ b ih =>
    intro n
    rw [← Nat.add_assoc, toBytes_succ, toBytes_succ b, ih, ← List.append_assoc, pow_succ',
      Nat.div_div_eq_div_mul]

theorem toBytes_mul_add (len k : Nat) : ∀ n, toBytes len (k * 256 ^ len + n) = toBytes len n := by
  induction len with
  | zero => intro n; rfl
  | succ len ih =>
    intro n
    have h1 : (k * 256 ^ (len + 1) + n) / 256 = k * 256 ^ len + n / 256 := by
      rw [pow_succ, ← Nat.mul_assoc]
      omega
    have h2 : (k * 256 ^ (len + 1) + n) % 256 = n % 256 := by
      rw [pow_succ, ← Nat.mul_assoc]
      omega
    rw [toBytes_succ, toBytes_succ, h1, h2, ih]

theorem parseIP_text {a : Addr} (h : a.zone = []) : parseIP a.text = a.as16 := by
  unfold parseIP
  rw [parseAddr_text]
  exact if_pos h

theorem to4_v4 (n : Fin (2 ^ 32)) : to4 (Addr.v4 n).as16 = toBytes 4 n.val := by
  have hsplit : (Addr.v4 n).as16 = toBytes 12 0xffff ++ toBytes 4 n.val := by
    show toBytes (12 + 4) (0xffff * 256 ^ 4 + n.val) = _
    have hn := n.isLt
    rw [toBytes_add, toBytes_mul_add, show (0xffff * 256 ^ 4 + n.val) / 256 ^ 4 = 0xffff by omega]
  unfold to4
  rw [hsplit, if_neg (by simp), if_pos ⟨by simp, List.take_left' (length_toBytes 12 _)⟩]
  exact List.drop_left' (length_toBytes 12 _)

theorem ipString_v4 (n : Fin (2 ^ 32)) : ipString (to4 (Addr.v4 n).as16) = (Addr.v4 n).text := by
  have hval : ofBytes (toBytes 4 n.val) = n.val := ofBytes_toBytes 4 _ n.isLt
  unfold ipString addrFromSlice
  rw [to4_v4, if_neg (by intro h; simpa using congrArg List.length h), if_neg (by simp),
    if_pos (by simp), dif_pos (by rw [hval]; exact n.isLt)]
  simp [hval, Addr.unmap]

theorem ipString_v6 {n : Fin (2 ^ 128)} (h : to4 (Addr.v6 n []).as16 = []) :
    ipString (Addr.v6 n []).as16 = (Addr.v6 n []).text := by
  have hlen : (Addr.v6 n []).as16.length = 16 := length_toBytes 16 _
  have hval : ofBytes (Addr.v6 n []).as16 = n.val := ofBytes_toBytes 16 _ n.isLt
  have hun : n.val / 2 ^ 32 ≠ 0xffff := by
    intro hm
    have hsplit : (Addr.v6 n []).as16 = toBytes 12 0xffff ++ toBytes 4 n.val := by
      show toBytes (12 + 4) n.val = _
      rw [toBytes_add, show n.val / 256 ^ 4 = 0xffff from hm]
    unfold to4 at h
    rw [if_neg (by omega), hsplit,
      if_pos ⟨by simp, List.take_left' (length_toBytes 12 _)⟩,
      List.drop_left' (length_toBytes 12 _)] at h
    simpa using congrArg List.length h
  unfold ipString addrFromSlice
  rw [if_neg (by intro h0; rw [h0] at hlen; cases hlen), if_neg (by omega), if_neg (by omega),
    if_pos hlen, dif_pos (by rw [hval]; exact n.isLt)]
  show (Addr.unmap (.v6 ⟨ofBytes _, _⟩ [])).text = _
  simp only [hval]
  show (if n.val / 2 ^ 32 = 0xffff then _ else Addr.v6 n []).text = _
  rw [if_neg hun]

theorem parseIP_ipString_v4 {ip : IP} (h : ip.length = 4) : to4 (parseIP (ipString ip)) = ip := by
  have hlt : ofBytes ip < 2 ^ 32 := by
    have hb := ofBytes_lt ip
    rw [h] at hb
    exact hb
  have hip : to4 (Addr.v4 ⟨ofBytes ip, hlt⟩).as16 = ip := by
    rw [to4_v4, ← h]
    exact toBytes_ofBytes ip
  have htext := ipString_v4 ⟨ofBytes ip, hlt⟩
  rw [hip] at htext
  rw [htext, parseIP_text rfl, hip]

theorem parseIP_ipString_v6 {ip : IP} (h : ip.length = 16) (h4 : to4 ip = []) :
    parseIP (ipString ip) = ip := by
  have hlt : ofBytes ip < 2 ^ 128 := by
    have hb := ofBytes_lt ip
    rw [h] at hb
    exact hb
  have hip : (Addr.v6 ⟨ofBytes ip, hlt⟩ []).as16 = ip := by
    show toBytes 16 (ofBytes ip) = ip
    rw [← h, toBytes_ofBytes]
  have htext := ipString_v6 (n := ⟨ofBytes ip, hlt⟩) (by rw [hip]; exact h4)
  rw [hip] at htext
  rw [htext, parseIP_text rfl, hip]

/-! ## what no address starts with -/

theorem octet_head {c : UInt8} {s : Bytes} (h : isDigit c = false) : octet (c :: s) = none := by
  unfold octet
  rw [if_neg]
  rintro ⟨-, hall, -⟩
  rw [List.all_cons, h] at hall
  cases hall

theorem parse4Fields_head {c : UInt8} {s : Bytes} (h : isDigit c = false) (hd : c ≠ dot) :
    parse4Fields (c :: s) = none := by
  have hsplit : ∃ t l, (c :: s).splitOn dot = (c :: t) :: l := by
    unfold List.splitOn
    rw [List.splitOnP_cons_eq_if_modifyHead, if_neg (by simpa using hd)]
    cases hs : List.splitOnP (· == dot) s with
    | nil => exact absurd hs (List.splitOnP_ne_nil _ s)
    | cons t l => exact ⟨t, l, rfl⟩
  obtain ⟨t, l, hsplit⟩ := hsplit
  unfold parse4Fields
  rw [hsplit, List.mapM_cons, octet_head h]
  rfl

theorem loop6_head {c : UInt8} {s : Bytes} (h : isHex c = false) (k : Nat) (gs : List Nat)
    (e : Option Nat) : loop6 (k + 1) (c :: s) gs e = none := by
  have hf : hexField (c :: s) = none := by
    unfold hexField
    rw [List.takeWhile_cons_of_neg (by simp [h])]
    rfl
  unfold loop6
  rw [hf]

theorem isIP_head {c : UInt8} {s : Bytes} (h : isHex c = false) (hd : c ≠ dot) (hc : c ≠ colon)
    (hp : c ≠ percent) : isIP (c :: s) = false := by
  have h4 : parse4 (c :: s) = none := by
    unfold parse4
    rw [parse4Fields_head (by
      unfold isHex at h
      rw [Bool.or_assoc, Bool.or_eq_false_iff] at h
      exact h.1) hd]
  have hgroups : ∀ t, parse6Groups (c :: t) = none := by
    intro t
    unfold parse6Groups
    split
    · next he => exact absurd (List.cons.inj he).1 hc
    · next he => exact absurd (List.cons.inj he).1 hc
    · rw [loop6_head h]
      rfl
  have h6 : parse6 (c :: s) = none := by
    unfold parse6
    rw [List.takeWhile_cons_of_pos (by simpa using hp)]
    dsimp only
    split
    · rw [hgroups]; rfl
    · rw [hgroups, Option.bind_none, ite_self]
  unfold isIP parseIP parseAddr
  rw [h4, h6]
  cases List.find? (fun c => c == dot || c == colon || c == percent) (c :: s) with
  | none => rfl
  | some x =>
    dsimp only
    split_ifs <;> rfl

end Go
