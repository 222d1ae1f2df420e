import BillVpn.Config.Pool
import BillVpn.Go.Block
import BillVpn.Go.Case

/-!
# The addresses of a pool

`parseIPList` lists the addresses of each block from the address on that the block is WRITTEN with;
`192.0.2.14/30` gives two of its four addresses.

* `listBlock_run`     one block: the addresses from a number on, if there is room for all of them;
* `parseIPList_run`   a list of sources, with the one bound on all of them;
* `parseIPList_iff`   **the listed addresses are the contained ones exactly if the blocks are written
                      with their first address, or are too many anyway**.
-/

set_option linter.unusedVariables false

namespace Bill
open Go

/-! ## one block -/

theorem listBlock_run (s : Bytes) {block : Pfx} (room : Nat) {lo : Nat} {a : Addr}
    (ha : block.nth lo = some a) (hlo : block.base ≤ lo) (hstop : lo < block.stop) :
    (block.stop - lo ≤ room → listBlock s block room a = .ok ((block.addrsFrom lo).map Addr.text)) ∧
      (room < block.stop - lo → ∃ e, listBlock s block room a = .err e) := by
  induction room generalizing lo a with
  | zero => exact ⟨fun h => by omega, fun _ => ⟨_, rfl⟩⟩
  | succ room ih =>
    have hle := block.stop_le
    have hnext : a.next = block.nth (lo + 1) := by
      rw [← Pfx.nth_bind_next (p := block) (k := lo) (by omega), ha]
      rfl
    rw [Pfx.addrsFrom_cons ha hstop, List.map_cons]
    unfold listBlock
    rw [hnext]
    by_cases hlast : lo + 1 < block.stop
    · obtain ⟨b, hb⟩ := Pfx.nth_isSome (p := block) (k := lo + 1) (by omega)
      have hin : block.contains b = true := (Pfx.contains_nth hb).mpr ⟨by omega, hlast⟩
      obtain ⟨hok, herr⟩ := ih hb (by omega) hlast
      rw [hb]
      dsimp only
      rw [if_pos hin]
      constructor
      · intro h
        rw [hok (by omega)]
        rfl
      · intro h
        obtain ⟨e, he⟩ := herr (by omega)
        rw [he]
        exact ⟨e, rfl⟩
    · -- the last address of the block, perhaps of the address space
      rw [Pfx.addrsFrom_stop (by omega), List.map_nil]
      refine ⟨fun _ => ?_, fun h => by omega⟩
      cases hb : block.nth (lo + 1) with
      | none => rfl
      | some b =>
        have hout : ¬ block.contains b = true := by
          rw [Pfx.contains_nth hb]
          omega
        dsimp only
        rw [if_neg hout]

/-! ## all sources -/

/-- the addresses of a source; a block from the number `first` on -/
def listed (first : Pfx → Nat) (s : Bytes) : List Bytes :=
  match parseAddr s with
  | some _ => [s]
  | none =>
    match parsePfx s with
    | some block => (block.addrsFrom (first block)).map Addr.text
    | none => []

/-- from the address on that the block is written with -/
def written : Bytes → List Bytes := listed fun block => block.addr.val

def contained : Bytes → List Bytes := listed Pfx.base

/-- an address or a block -/
def IsListed (s : Bytes) : Prop := (parseAddr s).isSome ∨ (parsePfx s).isSome

/-- a block is written with its first address -/
def Masked (s : Bytes) : Prop :=
  parseAddr s = none → ∀ block, parsePfx s = some block → block.addr.val = block.base

section
variable (std : Std)

theorem listSource_run {ips : List Bytes} {s : Bytes} (hs : IsListed s) (hips : ips.length ≤ maxIPPoolSize) :
    (ips.length + (written s).length ≤ maxIPPoolSize → listSource std ips s = .ok (ips ++ written s)) ∧
      (maxIPPoolSize < ips.length + (written s).length → ∃ e, listSource std ips s = .err e) := by
  unfold listSource written listed
  cases ha : parseAddr s with
  | some a =>
    dsimp only
    rw [List.length_singleton]
    constructor
    · intro h
      rw [if_neg (by omega)]
    · intro h
      rw [if_pos (by omega)]
      exact ⟨_, rfl⟩
  | none =>
    cases hb : parsePfx s with
    | none =>
      rcases hs with h | h
      · rw [ha] at h
        cases h
      · rw [hb] at h
        cases h
    | some block =>
      have hlt := block.val_lt_stop
      obtain ⟨hok, herr⟩ := listBlock_run s (maxIPPoolSize - ips.length) block.nth_addr block.base_le hlt
      dsimp only
      rw [List.length_map, Pfx.length_addrsFrom, if_pos block.contains_addr]
      constructor
      · intro h
        rw [if_neg (by omega), hok (by omega)]
        rfl
      · intro h
        by_cases hfull : maxIPPoolSize ≤ ips.length
        · rw [if_pos hfull]
          exact ⟨_, rfl⟩
        · obtain ⟨e, he⟩ := herr (by omega)
          rw [if_neg hfull, he]
          exact ⟨e, rfl⟩

theorem listSources_run {ss : List Bytes} (ips : List Bytes) (hss : ∀ s ∈ ss, IsListed s) (hips : ips.length ≤ maxIPPoolSize) :
    (ips.length + (ss.flatMap written).length ≤ maxIPPoolSize →
        ss.foldlM (listSource std) ips = .ok (ips ++ ss.flatMap written)) ∧
      (maxIPPoolSize < ips.length + (ss.flatMap written).length →
        ∃ e, ss.foldlM (listSource std) ips = .err e) := by
  induction ss generalizing ips with
  | nil =>
    rw [List.flatMap_nil, List.length_nil, List.append_nil]
    exact ⟨fun _ => rfl, fun h => by omega⟩
  | cons s ss ih =>
    obtain ⟨hok, herr⟩ := listSource_run std (hss s List.mem_cons_self) hips
    have hrest := fun s' hs' => hss s' (List.mem_cons_of_mem s hs')
    rw [List.flatMap_cons, List.length_append, List.foldlM_cons]
    by_cases hfit : ips.length + (written s).length ≤ maxIPPoolSize
    · obtain ⟨hok', herr'⟩ := ih (ips ++ written s) hrest (by rw [List.length_append]; exact hfit)
      rw [List.length_append] at hok' herr'
      rw [hok hfit, Res.bind_ok]
      constructor
      · intro h
        rw [hok' (by omega), List.append_assoc]
      · intro h
        exact herr' (by omega)
    · obtain ⟨e, he⟩ := herr (by omega)
      rw [he]
      exact ⟨fun h => by omega, fun _ => ⟨e, rfl⟩⟩

/-- **the list from the written addresses on, if it is short enough** -/
theorem parseIPList_run {sources : List Bytes} (hs : ∀ s ∈ sources.flatMap expandPattern, IsListed s) :
    (((sources.flatMap expandPattern).flatMap written).length ≤ maxIPPoolSize →
        parseIPList std sources = .ok ((sources.flatMap expandPattern).flatMap written)) ∧
      (maxIPPoolSize < ((sources.flatMap expandPattern).flatMap written).length →
        ∃ e, parseIPList std sources = .err e) := by
  have hrun := listSources_run std [] hs (Nat.zero_le _)
  rw [List.length_nil, Nat.zero_add, List.nil_append] at hrun
  exact hrun

end

/-! ## what should be listed -/

theorem contained_block {s : Bytes} {block : Pfx} (ha : parseAddr s = none) (hb : parsePfx s = some block) :
    contained s = block.addrs.map Addr.text ∧ (∀ a, a ∈ block.addrs ↔ block.contains a = true) ∧
      block.addrs.Pairwise fun a b => a.val < b.val := by
  refine ⟨?_, fun a => Pfx.mem_addrs, block.addrs_increasing⟩
  unfold contained listed
  rw [ha, hb]
  rfl

theorem length_listed_le {first second : Pfx → Nat} (h : ∀ block, second block ≤ first block) (s : Bytes) :
    (listed first s).length ≤ (listed second s).length := by
  unfold listed
  cases parseAddr s with
  | some a => exact Nat.le_refl _
  | none =>
    cases parsePfx s with
    | none => exact Nat.le_refl _
    | some block =>
      have hle := h block
      dsimp only
      rw [List.length_map, List.length_map, Pfx.length_addrsFrom, Pfx.length_addrsFrom]
      omega

theorem length_written_le (ss : List Bytes) :
    (ss.flatMap written).length ≤ (ss.flatMap contained).length := by
  induction ss with
  | nil => exact Nat.le_refl _
  | cons s ss ih =>
    have hs := length_listed_le Pfx.base_le s
    rw [List.flatMap_cons, List.flatMap_cons, List.length_append, List.length_append]
    exact Nat.add_le_add hs ih

theorem written_of_masked {s : Bytes} (h : Masked s) : written s = contained s := by
  unfold written contained listed
  cases ha : parseAddr s with
  | some a => rfl
  | none =>
    cases hb : parsePfx s with
    | none => rfl
    | some block =>
      dsimp only
      rw [h ha block hb]

theorem length_written_lt {s : Bytes} (h : ¬ Masked s) : (written s).length < (contained s).length := by
  obtain ⟨ha, block, hb, hne⟩ : parseAddr s = none ∧ ∃ block, parsePfx s = some block ∧
      block.addr.val ≠ block.base := by
    unfold Masked at h
    push Not at h
    exact h
  have hle := block.base_le
  have hlt := block.val_lt_stop
  unfold written contained listed
  rw [ha, hb]
  dsimp only
  rw [List.length_map, List.length_map, Pfx.length_addrsFrom, Pfx.length_addrsFrom]
  omega

theorem length_flatMap_written_lt {ss : List Bytes} (h : ∃ s ∈ ss, ¬ Masked s) :
    (ss.flatMap written).length < (ss.flatMap contained).length := by
  induction ss with
  | nil =>
    obtain ⟨s, hs, _⟩ := h
    exact nomatch hs
  | cons t ss ih =>
    have ht := length_listed_le Pfx.base_le t
    have hss := length_written_le ss
    rw [List.flatMap_cons, List.flatMap_cons, List.length_append, List.length_append]
    obtain ⟨s, hs, hm⟩ := h
    rcases List.mem_cons.mp hs with rfl | hs
    · exact Nat.add_lt_add_of_lt_of_le (length_written_lt hm) hss
    · exact Nat.add_lt_add_of_le_of_lt ht (ih ⟨s, hs, hm⟩)

/-- the contained addresses of all sources are listed, or refused if they are too many -/
structure Enumerates (std : Std) (sources : List Bytes) : Prop where
  listed : ((sources.flatMap expandPattern).flatMap contained).length ≤ maxIPPoolSize →
    parseIPList std sources = .ok ((sources.flatMap expandPattern).flatMap contained)
  refused : maxIPPoolSize < ((sources.flatMap expandPattern).flatMap contained).length →
    ∃ e, parseIPList std sources = .err e

/-- **The list is the one of the contained addresses exactly if every block is written with its first
address, or there are too many addresses from the written ones on.** -/
theorem parseIPList_iff (std : Std) (sources : List Bytes)
    (hs : ∀ s ∈ sources.flatMap expandPattern, IsListed s) :
    Enumerates std sources ↔
      (∀ s ∈ sources.flatMap expandPattern, Masked s) ∨
        maxIPPoolSize < ((sources.flatMap expandPattern).flatMap written).length := by
  obtain ⟨hok, herr⟩ := parseIPList_run std hs
  constructor
  · intro henum
    by_contra hno
    obtain ⟨hmask, hfew⟩ := not_or.mp hno
    have hrun := hok (Nat.le_of_not_lt hfew)
    have hmask : ∃ s ∈ sources.flatMap expandPattern, ¬ Masked s := by
      push Not at hmask
      exact hmask
    have hlt := length_flatMap_written_lt hmask
    by_cases hle : ((sources.flatMap expandPattern).flatMap contained).length ≤ maxIPPoolSize
    · have hlist := henum.listed hle
      rw [hrun] at hlist
      rw [Res.ok.inj hlist] at hlt
      exact absurd hlt (Nat.lt_irrefl _)
    · obtain ⟨e, he⟩ := henum.refused (Nat.lt_of_not_le hle)
      rw [hrun] at he
      exact nomatch he
  · rintro (hmask | hmany)
    · have hsame : (sources.flatMap expandPattern).flatMap written =
          (sources.flatMap expandPattern).flatMap contained :=
        List.flatMap_congr fun s hs' => written_of_masked (hmask s hs')
      rw [hsame] at hok herr
      exact ⟨hok, herr⟩
    · have hle := length_written_le (sources.flatMap expandPattern)
      exact ⟨fun h => by omega, fun _ => herr hmany⟩

/-- a block that is written with its first address, and one that ends at the top of the address space -/
theorem parseIPList_iff_pair :
    Enumerates asciiStd [lit "192.0.2.12/30", lit "255.255.255.254/31"] ↔
      (∀ s ∈ [lit "192.0.2.12/30", lit "255.255.255.254/31"].flatMap expandPattern, Masked s) ∨
        maxIPPoolSize <
          (([lit "192.0.2.12/30", lit "255.255.255.254/31"].flatMap expandPattern).flatMap written).length :=
  parseIPList_iff asciiStd [lit "192.0.2.12/30", lit "255.255.255.254/31"] (by
    have hexp : [lit "192.0.2.12/30", lit "255.255.255.254/31"].flatMap expandPattern =
        [lit "192.0.2.12/30", lit "255.255.255.254/31"] := by decide +kernel
    rw [hexp]
    intro s hs
    simp only [List.mem_cons, List.not_mem_nil, or_false] at hs
    rcases hs with rfl | rfl
    · exact .inr (by decide +kernel)
    · exact .inr (by decide +kernel))

/-- two of the four addresses of the block are missing -/
theorem parseIPList_misses :
    parseIPList asciiStd [lit "192.0.2.14/30"] = .ok [lit "192.0.2.14", lit "192.0.2.15"] ∧
      ([lit "192.0.2.14/30"].flatMap expandPattern).flatMap contained =
        [lit "192.0.2.12", lit "192.0.2.13", lit "192.0.2.14", lit "192.0.2.15"] := by
  decide +kernel

end Bill
