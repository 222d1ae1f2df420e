import BillVpn.Go.NetipText

/-!
# Texts that denote one address

`net.ParseIP` gives the 16-byte form, so an IPv4 address and its mapped form are one address, and so
are all ways to write an IPv6 address.

* `isIP_iff`           the address of a text that `net.ParseIP` accepts;
* `Addr.unmap_eq`      texts of one address unmap to the same;
* `colon_iff`          a colon tells the families apart.
-/

set_option linter.unusedVariables false

namespace Go

theorem isIP_iff {s : Bytes} : isIP s = true ↔ ∃ a, parseAddr s = some a ∧ a.zone = [] := by
  unfold isIP parseIP
  cases h : parseAddr s with
  | none => exact ⟨fun h => (nomatch h), fun ⟨a, h, _⟩ => (nomatch h)⟩
  | some a =>
    dsimp only
    by_cases hz : a.zone = []
    · have hlen : a.as16.length = 16 := by
        cases a with
        | v4 n => exact length_toBytes 16 _
        | v6 n z => exact length_toBytes 16 _
      rw [if_pos hz]
      refine ⟨fun _ => ⟨a, rfl, hz⟩, fun _ => bne_iff_ne.mpr fun h0 => ?_⟩
      rw [h0] at hlen
      cases hlen
    · rw [if_neg hz]
      refine ⟨fun h => (nomatch h), fun ⟨b, hb, hbz⟩ => ?_⟩
      cases hb
      exact absurd hbz hz

theorem parseIP_of {s : Bytes} {a : Addr} (h : parseAddr s = some a) (hz : a.zone = []) :
    parseIP s = a.as16 := by
  unfold parseIP
  rw [h]
  exact if_pos hz

/-- the value of the 16-byte form -/
def Addr.wide : Addr → Nat
  | .v4 n => 0xffff * 2 ^ 32 + n.val
  | .v6 n _ => n.val

theorem Addr.wide_eq {a b : Addr} (h : a.as16 = b.as16) : a.wide = b.wide := by
  have hof : ∀ c : Addr, ofBytes c.as16 = c.wide := by
    intro c
    cases c with
    | v4 n => exact ofBytes_toBytes 16 _ (by have := n.isLt; omega)
    | v6 n z => exact ofBytes_toBytes 16 _ n.isLt
  rw [← hof a, ← hof b, h]

theorem Addr.eq_of_wide {a b : Addr} (ha : a.zone = []) (hb : b.zone = []) (h4 : a.is4 = b.is4)
    (h : a.wide = b.wide) : a = b := by
  cases a with
  | v4 n =>
    cases b with
    | v4 m => exact congrArg Addr.v4 (Fin.ext (Nat.add_left_cancel h))
    | v6 m z => cases h4
  | v6 n z =>
    cases b with
    | v4 m => cases h4
    | v6 m z' =>
      obtain rfl : z = [] := ha
      obtain rfl : z' = [] := hb
      exact congrArg (Addr.v6 · []) (Fin.ext h)

theorem Addr.unmap_of_wide {n : Fin (2 ^ 32)} {b : Addr} (hb : b.is4 = false)
    (h : b.wide = 0xffff * 2 ^ 32 + n.val) : b.unmap = .v4 n := by
  cases b with
  | v4 m => cases hb
  | v6 m z =>
    have hv : m.val = 0xffff * 2 ^ 32 + n.val := h
    have hn := n.isLt
    show (if m.val / 2 ^ 32 = 0xffff then _ else _) = _
    rw [if_pos (by omega)]
    exact congrArg Addr.v4 (Fin.ext (show m.val % 2 ^ 32 = n.val by omega))

theorem Addr.unmap_eq {a b : Addr} (ha : a.zone = []) (hb : b.zone = []) (h : a.wide = b.wide) :
    a.unmap = b.unmap := by
  by_cases h4 : a.is4 = b.is4
  · rw [Addr.eq_of_wide ha hb h4 h]
  · cases a with
    | v4 n =>
      cases b with
      | v4 m => exact absurd rfl h4
      | v6 m z => exact (Addr.unmap_of_wide rfl h.symm).symm
    | v6 n z =>
      cases b with
      | v4 m => exact Addr.unmap_of_wide rfl h
      | v6 m z' => exact absurd rfl h4

/-! ## the colon -/

theorem octet_digits {s : Bytes} {n : Nat} (h : octet s = some n) : ∀ c ∈ s, isDigit c = true := by
  unfold octet at h
  split_ifs at h with hs
  exact List.all_eq_true.mp hs.2.1

theorem mapM_isSome {α β : Type} {f : α → Option β} {l : List α} {r : List β}
    (h : l.mapM f = some r) : ∀ x ∈ l, ∃ y, f x = some y := by
  induction l generalizing r with
  | nil => exact fun x hx => (nomatch hx)
  | cons a l ih =>
    rw [List.mapM_cons] at h
    obtain ⟨y, hy, h⟩ := Option.bind_eq_some_iff.mp h
    obtain ⟨ys, hys, -⟩ := Option.bind_eq_some_iff.mp h
    exact List.forall_mem_cons.mpr ⟨⟨y, hy⟩, ih hys⟩

theorem mem_intercalate {α : Type} {c sep : α} {l : List (List α)} (h : c ∈ [sep].intercalate l) :
    c = sep ∨ ∃ p ∈ l, c ∈ p := by
  rw [List.intercalate, List.mem_flatten] at h
  obtain ⟨p, hp, hc⟩ := h
  induction l with
  | nil => cases hp
  | cons a l ih =>
    cases l with
    | nil => exact .inr ⟨p, hp, hc⟩
    | cons b l =>
      rw [List.intersperse_cons_cons, List.mem_cons, List.mem_cons] at hp
      rcases hp with rfl | rfl | hp
      · exact .inr ⟨p, List.mem_cons_self, hc⟩
      · exact .inl (List.mem_singleton.mp hc)
      · exact (ih hp).imp id fun ⟨q, hq, hcq⟩ => ⟨q, List.mem_cons_of_mem _ hq, hcq⟩

theorem parse4Fields_colon {s : Bytes} {n : Nat} (h : parse4Fields s = some n) : colon ∉ s := by
  unfold parse4Fields at h
  cases hm : (s.splitOn dot).mapM octet with
  | none => rw [hm] at h; cases h
  | some l =>
    intro hc
    have hjoin : [dot].intercalate (s.splitOn dot) = s := List.intercalate_splitOn dot
    rw [← hjoin] at hc
    rcases mem_intercalate hc with hdot | ⟨p, hp, hcp⟩
    · exact absurd hdot (by decide)
    · obtain ⟨y, hy⟩ := mapM_isSome hm p hp
      exact absurd (octet_digits hy colon hcp) (by decide)

theorem colon_iff {s : Bytes} {a : Addr} (h : parseAddr s = some a) : colon ∈ s ↔ a.is4 = false := by
  unfold parseAddr at h
  cases hf : s.find? (fun c => c == dot || c == colon || c == percent) with
  | none => rw [hf] at h; cases h
  | some c =>
    rw [hf] at h
    dsimp only at h
    have hmem := List.mem_of_find?_eq_some hf
    split_ifs at h with hd hc
    · unfold parse4 at h
      cases hp : parse4Fields s with
      | none => rw [hp] at h; cases h
      | some n =>
        rw [hp] at h
        dsimp only at h
        split_ifs at h
        cases h
        exact ⟨fun hc => absurd hc (parse4Fields_colon hp), fun hc => (nomatch hc)⟩
    · rw [hc] at hmem
      refine ⟨fun _ => ?_, fun _ => hmem⟩
      have h6 : ∀ (g : Option (List Nat)) (z : Bytes), g.bind (addr6 · z) = some a → a.is4 = false := by
        intro g z hg
        obtain ⟨gs, -, hg⟩ := Option.bind_eq_some_iff.mp hg
        unfold addr6 at hg
        split_ifs at hg
        cases hg
        rfl
      unfold parse6 at h
      dsimp only at h
      split at h
      · exact h6 _ _ h
      · split_ifs at h
        exact h6 _ _ h

end Go
