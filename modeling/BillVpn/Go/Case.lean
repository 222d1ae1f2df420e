import BillVpn.Go.Json
import BillVpn.Go.Netip

/-!
# Upper and lower case

`strings.ToLower` maps letters; on ASCII text it is a map of bytes.

* `LowerCase f`        what is used of a function that lowers the case of names;
* `asciiLower`         the function on ASCII text;
* `isIP_asciiLower`    **an address is an address in either case**.
-/

set_option linter.unusedVariables false

namespace Go

/-- Lowering twice changes nothing, no other text becomes an address, and the first byte stays if
it is no letter. -/
structure LowerCase (f : Bytes → Bytes) : Prop where
  idem : ∀ s, f (f s) = f s
  address : ∀ s, isIP s = false → isIP (f s) = false
  mark : ∀ s c, c < 65 → ((f s).head? = some c ↔ s.head? = some c)
  empty : ∀ s, f s = [] ↔ s = []

def lowerByte (c : UInt8) : UInt8 := if 65 ≤ c ∧ c ≤ 90 then c + 32 else c

def asciiLower (s : Bytes) : Bytes := s.map lowerByte

/-! ## bytes -/

theorem forall_byte {p : UInt8 → Prop} (h : ∀ i : Fin 256, p (UInt8.ofNat i)) (c : UInt8) : p c := by
  have hc := h ⟨c.toNat, c.toNat_lt⟩
  rw [UInt8.ofNat_toNat] at hc
  exact hc

theorem lowerByte_idem (c : UInt8) : lowerByte (lowerByte c) = lowerByte c :=
  forall_byte (p := fun c => lowerByte (lowerByte c) = lowerByte c) (by decide +kernel) c

theorem isDigit_lowerByte (c : UInt8) : isDigit (lowerByte c) = isDigit c :=
  forall_byte (p := fun c => isDigit (lowerByte c) = isDigit c) (by decide +kernel) c

theorem isHex_lowerByte (c : UInt8) : isHex (lowerByte c) = isHex c :=
  forall_byte (p := fun c => isHex (lowerByte c) = isHex c) (by decide +kernel) c

theorem hexVal_lowerByte (c : UInt8) : isHex c = true → hexVal (lowerByte c) = hexVal c :=
  forall_byte (p := fun c => isHex c = true → hexVal (lowerByte c) = hexVal c) (by decide +kernel) c

theorem lowerByte_of_digit (c : UInt8) : isDigit c = true → lowerByte c = c :=
  forall_byte (p := fun c => isDigit c = true → lowerByte c = c) (by decide +kernel) c

theorem lowerByte_eq_iff (c m : UInt8) (hm : m < 65) : lowerByte c = m ↔ c = m := by
  unfold lowerByte
  split_ifs with h
  · constructor
    · rintro rfl
      have h1 := UInt8.le_iff_toNat_le.mp h.1
      have h2 := UInt8.le_iff_toNat_le.mp h.2
      have h3 := UInt8.lt_iff_toNat_lt.mp hm
      rw [UInt8.toNat_add] at h3
      simp at h1 h2 h3
      omega
    · rintro rfl
      exact absurd h.1 (UInt8.not_le.mpr hm)
  · exact Iff.rfl

theorem beq_lowerByte (c m : UInt8) (hm : m < 65) : (lowerByte c == m) = (c == m) := by
  rw [Bool.eq_iff_iff, beq_iff_eq, beq_iff_eq]
  exact lowerByte_eq_iff c m hm

/-! ## parsing -/

theorem asciiLower_of_digits {s : Bytes} (h : s.all isDigit = true) : asciiLower s = s := by
  unfold asciiLower
  conv_rhs => rw [← List.map_id s]
  apply List.map_congr_left
  intro c hc
  exact lowerByte_of_digit c (List.all_eq_true.mp h c hc)

theorem all_isDigit_asciiLower (s : Bytes) : (asciiLower s).all isDigit = s.all isDigit := by
  unfold asciiLower
  rw [List.all_map]
  congr 1
  funext c
  exact isDigit_lowerByte c

theorem octet_asciiLower (s : Bytes) : octet (asciiLower s) = octet s := by
  by_cases h : s.all isDigit = true
  · rw [asciiLower_of_digits h]
  · have h' : ¬ (asciiLower s).all isDigit = true := by
      rw [all_isDigit_asciiLower]
      exact h
    unfold octet
    rw [if_neg fun hc => h' hc.2.1, if_neg fun hc => h hc.2.1]

theorem splitOn_asciiLower (s : Bytes) : (asciiLower s).splitOn dot = (s.splitOn dot).map asciiLower := by
  induction s with
  | nil => rfl
  | cons c s ih =>
    have hc := beq_lowerByte c dot (by decide)
    unfold List.splitOn at ih ⊢
    show List.splitOnP (· == dot) (lowerByte c :: asciiLower s) = _
    rw [List.splitOnP_cons_eq_if_modifyHead, List.splitOnP_cons_eq_if_modifyHead, hc, ih]
    split_ifs with h
    · rfl
    · cases List.splitOnP (· == dot) s with
      | nil => rfl
      | cons a l => rfl

theorem parse4Fields_asciiLower (s : Bytes) : parse4Fields (asciiLower s) = parse4Fields s := by
  unfold parse4Fields
  rw [splitOn_asciiLower, List.mapM_map]
  have h : (fun s => octet (asciiLower s)) = octet := funext octet_asciiLower
  rw [show (octet ∘ asciiLower) = octet from h]

theorem digitsVal_asciiLower {s : Bytes} (h : ∀ c ∈ s, isHex c = true) :
    digitsVal 16 (asciiLower s) = digitsVal 16 s := by
  unfold digitsVal asciiLower
  rw [List.foldl_map]
  apply List.foldl_ext
  intro acc c hc
  rw [hexVal_lowerByte c (h c hc)]

theorem takeWhile_asciiLower {p : UInt8 → Bool} (hp : ∀ c, p (lowerByte c) = p c) (s : Bytes) :
    (asciiLower s).takeWhile p = asciiLower (s.takeWhile p) := by
  unfold asciiLower
  rw [List.takeWhile_map]
  congr 2
  funext c
  exact hp c

theorem dropWhile_asciiLower {p : UInt8 → Bool} (hp : ∀ c, p (lowerByte c) = p c) (s : Bytes) :
    (asciiLower s).dropWhile p = asciiLower (s.dropWhile p) := by
  unfold asciiLower
  rw [List.dropWhile_map]
  congr 2
  funext c
  exact hp c

theorem asciiLower_eq_nil {s : Bytes} : asciiLower s = [] ↔ s = [] := List.map_eq_nil_iff

theorem length_asciiLower (s : Bytes) : (asciiLower s).length = s.length := List.length_map _

theorem hexField_asciiLower (s : Bytes) :
    hexField (asciiLower s) = (hexField s).map fun r => (r.1, asciiLower r.2) := by
  have hall : ∀ c ∈ s.takeWhile isHex, isHex c = true :=
    List.all_eq_true.mp List.all_takeWhile
  unfold hexField
  dsimp only
  rw [takeWhile_asciiLower isHex_lowerByte, dropWhile_asciiLower isHex_lowerByte,
    digitsVal_asciiLower hall]
  simp only [asciiLower_eq_nil, length_asciiLower]
  split_ifs with h
  · rfl
  · rfl

theorem loop6_asciiLower (k : Nat) : ∀ (s : Bytes) (gs : List Nat) (e : Option Nat),
    loop6 k (asciiLower s) gs e = (loop6 k s gs e).map fun r => (r.1, r.2.1, asciiLower r.2.2) := by
  induction k with
  | zero =>
    intro s gs e
    rfl
  | succ k ih =>
    intro s gs e
    unfold loop6
    rw [hexField_asciiLower, parse4Fields_asciiLower]
    cases hexField s with
    | none => rfl
    | some r =>
      obtain ⟨acc, rest⟩ := r
      cases rest with
      | nil => rfl
      | cons c rest =>
        have hdot : lowerByte c = dot ↔ c = dot := lowerByte_eq_iff c dot (by decide)
        have hcolon : lowerByte c = colon ↔ c = colon := lowerByte_eq_iff c colon (by decide)
        show (if lowerByte c = dot then _ else if lowerByte c ≠ colon then _ else _) = _
        rw [if_congr hdot rfl rfl]
        by_cases h1 : c = dot
        · rw [if_pos h1]
          simp only [h1, if_true]
          split_ifs with h2 h3
          · rfl
          · rfl
          · cases parse4Fields s with
            | none => rfl
            | some n => rfl
        · rw [if_neg h1]
          simp only [h1, if_false, ne_eq, hcolon]
          by_cases h2 : c = colon
          · simp only [h2, not_true_eq_false, if_false]
            cases rest with
            | nil => rfl
            | cons d rest =>
              have hd : lowerByte d = colon ↔ d = colon := lowerByte_eq_iff d colon (by decide)
              show (if lowerByte d = colon then _ else _) = _
              rw [if_congr hd rfl rfl]
              by_cases h3 : d = colon
              · simp only [h3, if_true]
                by_cases he : e.isSome = true
                · simp only [he, if_true]
                  rfl
                · simp only [he, Bool.false_eq_true, if_false]
                  cases rest with
                  | nil => rfl
                  | cons x rest => exact ih (x :: rest) (gs ++ [acc]) _
              · simp only [h3, if_false]
                exact ih (d :: rest) (gs ++ [acc]) e
          · simp only [h2, not_false_eq_true, if_true]
            rfl

theorem finish6_asciiLower (r : Option (List Nat × Option Nat × Bytes)) :
    finish6 (r.map fun r => (r.1, r.2.1, asciiLower r.2.2)) = finish6 r := by
  cases r with
  | none => rfl
  | some r =>
    obtain ⟨gs, e, rest⟩ := r
    cases rest with
    | nil => rfl
    | cons c rest => rfl

theorem parse6Groups_asciiLower (s : Bytes) : parse6Groups (asciiLower s) = parse6Groups s := by
  have hcolon : ∀ c, lowerByte c = 58 ↔ c = 58 := fun c => lowerByte_eq_iff c 58 (by decide)
  have hother : ∀ s : Bytes, (∀ r, s ≠ 58 :: 58 :: r) → parse6Groups s = finish6 (loop6 8 s [] none) := by
    intro s hs
    unfold parse6Groups
    split
    · exact absurd rfl (hs [])
    · rename_i rest _
      exact absurd rfl (hs rest)
    · rfl
  by_cases h : ∃ r, s = 58 :: 58 :: r
  · obtain ⟨r, rfl⟩ := h
    cases r with
    | nil => rfl
    | cons c r =>
      show finish6 (loop6 8 (asciiLower (c :: r)) [] (some 0)) = finish6 (loop6 8 (c :: r) [] (some 0))
      rw [loop6_asciiLower, finish6_asciiLower]
  · push Not at h
    rw [hother s h, hother, loop6_asciiLower, finish6_asciiLower]
    intro r hr
    rcases s with _ | ⟨c, _ | ⟨d, s⟩⟩
    · cases hr
    · cases (List.cons.inj hr).2
    · obtain ⟨hc, hr⟩ := List.cons.inj hr
      obtain ⟨hd, -⟩ := List.cons.inj hr
      exact h s (by rw [(hcolon c).mp hc, (hcolon d).mp hd])

/-- the zone keeps its letters but for their case -/
def Addr.lowerZone : Addr → Addr
  | .v4 n => .v4 n
  | .v6 n z => .v6 n (asciiLower z)

theorem parse6_asciiLower (s : Bytes) : parse6 (asciiLower s) = (parse6 s).map Addr.lowerZone := by
  have hp : ∀ c, (lowerByte c != percent) = (c != percent) := by
    intro c
    unfold bne
    rw [beq_lowerByte c percent (by decide)]
  have haddr : ∀ (o : Option (List Nat)) (z : Bytes),
      o.bind (addr6 · (asciiLower z)) = (o.bind (addr6 · z)).map Addr.lowerZone := by
    intro o z
    cases o with
    | none => rfl
    | some gs =>
      show addr6 gs (asciiLower z) = (addr6 gs z).map Addr.lowerZone
      unfold addr6
      split_ifs with h
      · rfl
      · rfl
  unfold parse6
  dsimp only
  rw [takeWhile_asciiLower hp, dropWhile_asciiLower hp, parse6Groups_asciiLower]
  cases s.dropWhile (· != percent) with
  | nil => exact haddr _ []
  | cons c zone =>
    show (if asciiLower zone = [] then none else _) = Option.map _ (if zone = [] then none else _)
    rw [if_congr asciiLower_eq_nil rfl rfl]
    by_cases h : zone = []
    · rw [if_pos h, if_pos h]
      rfl
    · rw [if_neg h, if_neg h]
      exact haddr _ zone

theorem parse4_asciiLower (s : Bytes) : parse4 (asciiLower s) = parse4 s := by
  unfold parse4
  rw [parse4Fields_asciiLower]

theorem parse4_lowerZone (s : Bytes) : (parse4 s).map Addr.lowerZone = parse4 s := by
  unfold parse4
  cases parse4Fields s with
  | none => rfl
  | some n =>
    dsimp only
    split_ifs with h
    · rfl
    · rfl

theorem parseAddr_asciiLower (s : Bytes) :
    parseAddr (asciiLower s) = (parseAddr s).map Addr.lowerZone := by
  unfold parseAddr
  have hp : ((fun c => c == dot || c == colon || c == percent) ∘ lowerByte) =
      fun c => c == dot || c == colon || c == percent := by
    funext c
    rw [Function.comp_apply, beq_lowerByte c dot (by decide), beq_lowerByte c colon (by decide),
      beq_lowerByte c percent (by decide)]
  rw [show (asciiLower s).find? (fun c => c == dot || c == colon || c == percent) =
      (s.find? fun c => c == dot || c == colon || c == percent).map lowerByte by
    unfold asciiLower
    rw [List.find?_map, hp]]
  cases s.find? (fun c => c == dot || c == colon || c == percent) with
  | none => rfl
  | some c =>
    show (if lowerByte c = dot then _ else if lowerByte c = colon then _ else _) = _
    rw [if_congr (lowerByte_eq_iff c dot (by decide)) rfl rfl,
      if_congr (lowerByte_eq_iff c colon (by decide)) rfl rfl, parse4_asciiLower, parse6_asciiLower]
    dsimp only
    split_ifs with h1 h2
    · exact (parse4_lowerZone s).symm
    · rfl
    · rfl

/-- **An address is an address in either case.** -/
theorem isIP_asciiLower (s : Bytes) : isIP (asciiLower s) = isIP s := by
  unfold isIP parseIP
  rw [parseAddr_asciiLower]
  cases parseAddr s with
  | none => rfl
  | some a =>
    cases a with
    | v4 n => rfl
    | v6 n z =>
      show ((if asciiLower z = [] then _ else _) != _) = ((if z = [] then _ else _) != _)
      rw [if_congr asciiLower_eq_nil rfl rfl]
      rfl

theorem lowerCase_asciiLower : LowerCase asciiLower where
  idem s := by
    unfold asciiLower
    rw [List.map_map]
    congr 1
    funext c
    exact lowerByte_idem c
  address s h := by rw [isIP_asciiLower, h]
  mark s c hc := by
    cases s with
    | nil => rfl
    | cons d s =>
      show some (lowerByte d) = some c ↔ some d = some c
      rw [Option.some_inj, Option.some_inj]
      exact lowerByte_eq_iff d c hc
  empty s := asciiLower_eq_nil

/-- the functions on ASCII text, without a clock and a network -/
def asciiStd : Std where
  toLower := asciiLower
  toUpper := id
  trimSpace := id
  parseDuration := fun _ => .error "time: invalid duration"
  lookupIP := fun _ => .error "no such host"

end Go
