import BillVpn.Go.Run
import Mathlib.Logic.Function.Basic

/-!
# Buffers from shared pools

Goroutines take their buffers from `sync.Pool`s, one pool for each class of capacities, read into
them, write from them, and put them back.  A pool hands out anything that was put into it, in any
order, or a new array, and the collector may take from it at any time.

* `Classes`                             the pool for a size, and the one an array goes back to;
* `Use`                                 the next thing a goroutine does with its buffer;
* `Memory.step`                         one step of one goroutine, in any order;
* `Owned`                               every array is in one place only;
* `Memory.run_owned`                    it stays so, and no slice is cut past its capacity;
* `Memory.view_run`, `Memory.out_run`   **a goroutine does what it does with a buffer of its own**,
                                        whatever that buffer held when it got it.
-/

set_option linter.unusedVariables false
set_option linter.unusedSectionVars false

namespace Go

/-! ## slices, pools and goroutines -/

/-- a `[]byte` that starts at the front of its array -/
structure Slice where
  array : Nat
  len : Nat
  cap : Nat
deriving DecidableEq, Repr

/-- `s[:n]`, which panics past the capacity -/
def Slice.upto (s : Slice) (n : Nat) : Option Slice :=
  if n ≤ s.cap then some { s with len := n } else none

structure Classes where
  /-- the pool for a buffer of that length; without one, no buffer is given -/
  forSize : Nat → Option Nat
  /-- the pool for an array of that capacity; without one, the array is not put back -/
  ofCap : Nat → Option Nat
  /-- the capacity of the arrays that a pool makes -/
  capacity : Nat → Nat
  size_le : ∀ {n k}, forSize n = some k → n ≤ capacity k
  cap_eq : ∀ {c k}, ofCap c = some k → c = capacity k

/-- what a goroutine does with its buffer, where it goes on, and what that gives -/
inductive Use (σ ω : Type) where
  | get (size : Nat) (next : σ)
  /-- `data` is read into the buffer, from its front -/
  | fill (data : Bytes) (next : σ) (out : List ω)
  | look (next : σ) (out : Bytes → List ω)
  | put (next : σ)

structure Memory (ι σ : Type) where
  arrays : Nat → Bytes
  /-- the arrays made so far -/
  made : Nat
  pools : Nat → List Slice
  held : ι → Option Slice
  pc : ι → σ
  crashed : Bool

inductive MemoryEvent (ι ε : Type) where
  /-- goroutine `i` meets `e`; a pool that is asked gives its item `pick`, or a new array -/
  | go (i : ι) (e : ε) (pick : Nat)
  /-- the collector takes item `j` of pool `k` -/
  | sweep (k j : Nat)
deriving DecidableEq

/-- `copy(b, d)` -/
def overwrite (d b : Bytes) : Bytes := d ++ b.drop d.length

/-- `b` with the length `n` -/
def fit (n : Nat) (b : Bytes) : Bytes := b.take n ++ List.replicate (n - b.length) 0

section
variable {ι σ ε ω : Type} [DecidableEq ι]

namespace Memory

def bytes (m : Memory ι σ) (s : Slice) : Bytes := (m.arrays s.array).take s.len

/-- what a goroutine sees: where it is, and its buffer -/
def view (i : ι) (m : Memory ι σ) : σ × Option Bytes := (m.pc i, (m.held i).map m.bytes)

def content (i : ι) (m : Memory ι σ) : Bytes := (m.view i).2.getD []

def sweep (k j : Nat) (m : Memory ι σ) : Memory ι σ :=
  { m with pools := Function.update m.pools k ((m.pools k).eraseIdx j) }

/-- `New` of pool `k` -/
def make (C : Classes) (k : Nat) (m : Memory ι σ) : Slice × Memory ι σ :=
  (⟨m.made, C.capacity k, C.capacity k⟩,
    { m with
      made := m.made + 1
      arrays := Function.update m.arrays m.made (List.replicate (C.capacity k) 0) })

/-- `Get` of pool `k` -/
def take (C : Classes) (k pick : Nat) (m : Memory ι σ) : Slice × Memory ι σ :=
  match (m.pools k)[pick]? with
  | some s => (s, m.sweep k pick)
  | none => m.make C k

def hold (i : ι) (s : Option Slice) (m : Memory ι σ) : Memory ι σ :=
  { m with held := Function.update m.held i s }

def move (i : ι) (next : σ) (m : Memory ι σ) : Memory ι σ :=
  { m with pc := Function.update m.pc i next }

def get (C : Classes) (i : ι) (size pick : Nat) (next : σ) (m : Memory ι σ) : Memory ι σ :=
  match C.forSize size with
  | none => (m.hold i none).move i next
  | some k =>
    match (m.take C k pick).1.upto size with
    | none => { m with crashed := true }
    | some s => ((m.take C k pick).2.hold i (some s)).move i next

def fill (i : ι) (data : Bytes) (m : Memory ι σ) : Memory ι σ :=
  match m.held i with
  | none => m
  | some s =>
    { m with
      arrays := Function.update m.arrays s.array
        (overwrite (data.take s.len) (m.arrays s.array)) }

def put (C : Classes) (i : ι) (m : Memory ι σ) : Memory ι σ :=
  match m.held i with
  | none => m
  | some s =>
    match C.ofCap s.cap with
    | none => m.hold i none
    | some k => { m with pools := Function.update m.pools k (s :: m.pools k) }.hold i none

def use (C : Classes) (i : ι) (pick : Nat) (u : Use σ ω) (m : Memory ι σ) : Memory ι σ :=
  match u with
  | .get size next => m.get C i size pick next
  | .fill data next _ => (m.fill i data).move i next
  | .look next _ => m.move i next
  | .put next => (m.put C i).move i next

def step (C : Classes) (act : ι → ε → σ → Use σ ω) (e : MemoryEvent ι ε) (m : Memory ι σ) :
    Memory ι σ :=
  match e with
  | .go i e pick => m.use C i pick (act i e (m.pc i))
  | .sweep k j => m.sweep k j

end Memory

def Use.out (b : Bytes) : Use σ ω → List ω
  | .get _ _ => []
  | .fill _ _ out => out
  | .look _ out => out b
  | .put _ => []

/-- what goroutine `i` gives at an event -/
def Memory.outOf (act : ι → ε → σ → Use σ ω) (i : ι) (e : MemoryEvent ι ε) (m : Memory ι σ) :
    List ω :=
  match e with
  | .go j e _ => if j = i then (act j e (m.pc j)).out (m.content j) else []
  | .sweep _ _ => []

/-! ## a goroutine with a buffer of its own -/

/-- a new buffer holds `b` -/
def Use.alone (C : Classes) (b : Bytes) (u : Use σ ω) (x : Option Bytes) : σ × Option Bytes :=
  match u with
  | .get size next => (next, (C.forSize size).map fun _ => fit size b)
  | .fill data next _ => (next, x.map fun y => overwrite (data.take y.length) y)
  | .look next _ => (next, x)
  | .put next => (next, none)

/-- the step on an event, with what a buffer holds that is got there -/
def aloneStep (C : Classes) (act : ε → σ → Use σ ω) (e : ε × Bytes) (s : σ × Option Bytes) :
    σ × Option Bytes := (act e.1 s.1).alone C e.2 s.2

def aloneOut (act : ε → σ → Use σ ω) (e : ε × Bytes) (s : σ × Option Bytes) : List ω :=
  (act e.1 s.1).out (s.2.getD [])

/-- the events of goroutine `i` in a run of all, as it would have them alone -/
def Memory.ownOf (C : Classes) (act : ι → ε → σ → Use σ ω) (i : ι) (e : MemoryEvent ι ε)
    (m : Memory ι σ) : List (ε × Bytes) :=
  match e with
  | .go j f pick => if j = i then [(f, (m.step C act e).content j)] else []
  | .sweep _ _ => []

/-! ## every array is in one place -/

inductive Place (ι : Type) where
  | nowhere
  | pool (k : Nat)
  | hands (i : ι)

theorem Place.pool_ne (k : Nat) : (Place.pool k : Place ι) ≠ .nowhere := by
  intro h
  cases h

theorem Place.hands_ne (i : ι) : Place.hands i ≠ .nowhere := by
  intro h
  cases h

/-- `owner` says where each array is -/
structure Owned (C : Classes) (owner : Nat → Place ι) (m : Memory ι σ) : Prop where
  pooled : ∀ k, ∀ s ∈ m.pools k, owner s.array = .pool k ∧ s.cap = C.capacity k ∧
    (m.arrays s.array).length = s.cap
  once : ∀ k, ((m.pools k).map Slice.array).Nodup
  held : ∀ i s, m.held i = some s → owner s.array = .hands i ∧ s.len ≤ s.cap ∧
    (m.arrays s.array).length = s.cap
  /-- what is held was given out for its size -/
  given : ∀ i s, m.held i = some s → ∃ k, C.forSize s.len = some k ∧ s.cap = C.capacity k
  fresh : ∀ a, m.made ≤ a → owner a = .nowhere
  running : m.crashed = false

/-- an array for goroutine `i`, taken from pool `k` -/
structure Taken (C : Classes) (k : Nat) (m : Memory ι σ) (s : Slice) (m' : Memory ι σ) : Prop where
  owned : ∃ owner, Owned C owner m' ∧ owner s.array = .nowhere
  made : s.array < m'.made
  cap : s.cap = C.capacity k
  length : (m'.arrays s.array).length = s.cap
  held : m'.held = m.held
  pc : m'.pc = m.pc
  kept : ∀ i t, m.held i = some t → m'.arrays t.array = m.arrays t.array

section
variable {C : Classes} {owner : Nat → Place ι} {m : Memory ι σ} {i j : ι} {s : Slice}

theorem Owned.made_of (h : Owned C owner m) {a : Nat} (ha : owner a ≠ .nowhere) : a < m.made := by
  by_contra hle
  exact ha (h.fresh a (by omega))

theorem Owned.apart (h : Owned C owner m) {t : Slice} (hs : m.held i = some s)
    (ht : m.held j = some t) (hij : i ≠ j) : s.array ≠ t.array := by
  intro he
  have hi := (h.held i s hs).1
  rw [he, (h.held j t ht).1] at hi
  exact hij (Place.hands.inj hi).symm

theorem array_ne_of_mem_eraseIdx {l : List Slice} (hl : (l.map Slice.array).Nodup) {n : Nat}
    (hn : l[n]? = some s) {t : Slice} (ht : t ∈ l.eraseIdx n) : t.array ≠ s.array := by
  obtain ⟨hlt, hs⟩ := List.getElem?_eq_some_iff.mp hn
  have hperm := (List.getElem_cons_eraseIdx_perm hlt).map Slice.array
  have hnodup := hperm.nodup_iff.mpr hl
  rw [List.map_cons, List.nodup_cons, hs] at hnodup
  intro he
  exact hnodup.1 (List.mem_map.mpr ⟨t, ht, he⟩)

theorem mem_update {f : Nat → List Slice} {k k' : Nat} {l : List Slice} {t : Slice}
    (h : t ∈ Function.update f k l k') : k' = k ∧ t ∈ l ∨ k' ≠ k ∧ t ∈ f k' := by
  by_cases hk : k' = k
  · rw [hk, Function.update_self] at h
    exact .inl ⟨hk, h⟩
  · rw [Function.update_of_ne hk] at h
    exact .inr ⟨hk, h⟩

theorem Owned.sweep (h : Owned C owner m) (k n : Nat) : Owned C owner (m.sweep k n) where
  pooled := by
    intro k' t ht
    rcases mem_update ht with ⟨rfl, ht⟩ | ⟨-, ht⟩
    · exact h.pooled k' t (List.mem_of_mem_eraseIdx ht)
    · exact h.pooled k' t ht
  once := by
    intro k'
    show ((Function.update m.pools k ((m.pools k).eraseIdx n) k').map Slice.array).Nodup
    by_cases hk : k' = k
    · rw [hk, Function.update_self]
      exact (h.once k).sublist ((List.eraseIdx_sublist ..).map _)
    · rw [Function.update_of_ne hk]
      exact h.once k'
  held := h.held
  given := h.given
  fresh := h.fresh
  running := h.running

theorem Owned.place (h : Owned C owner m) {a : Nat} (x : Place ι) (ha : a < m.made)
    (hp : ∀ k, ∀ t ∈ m.pools k, t.array ≠ a) (hh : ∀ i t, m.held i = some t → t.array ≠ a) :
    Owned C (Function.update owner a x) m where
  pooled := by
    intro k t ht
    rw [Function.update_of_ne (hp k t ht)]
    exact h.pooled k t ht
  once := h.once
  held := by
    intro i t ht
    rw [Function.update_of_ne (hh i t ht)]
    exact h.held i t ht
  given := h.given
  fresh := by
    intro b hb
    rw [Function.update_of_ne (by omega)]
    exact h.fresh b hb
  running := h.running

theorem Owned.taken_sweep (h : Owned C owner m) {k pick : Nat} (hs : (m.pools k)[pick]? = some s) :
    Taken C k m s (m.sweep k pick) := by
  obtain ⟨ho, hc, hl⟩ := h.pooled k s (List.mem_of_getElem? hs)
  have hmade : s.array < m.made := h.made_of (by rw [ho]; exact Place.pool_ne k)
  refine ⟨⟨Function.update owner s.array .nowhere, ?_, Function.update_self ..⟩, hmade, hc, hl,
    rfl, rfl, fun _ _ _ => rfl⟩
  refine (h.sweep k pick).place .nowhere hmade ?_ ?_
  · intro k' t ht
    rcases mem_update ht with ⟨rfl, ht⟩ | ⟨hk, ht⟩
    · exact array_ne_of_mem_eraseIdx (h.once k') hs ht
    · intro he
      have hpool := (h.pooled k' t ht).1
      rw [he, ho] at hpool
      exact hk (Place.pool.inj hpool).symm
  · intro i t ht he
    have hhands := (h.held i t ht).1
    rw [he, ho] at hhands
    cases hhands

theorem Owned.taken_make (h : Owned C owner m) (k : Nat) :
    Taken C k m (m.make C k).1 (m.make C k).2 := by
  have hnew : ∀ a, owner a ≠ .nowhere → a ≠ m.made := fun a ha => (h.made_of ha).ne
  have hpool : ∀ k, ∀ t ∈ m.pools k, t.array ≠ m.made := fun k t ht =>
    hnew _ (by rw [(h.pooled k t ht).1]; exact Place.pool_ne k)
  have hheld : ∀ i t, m.held i = some t → t.array ≠ m.made := fun i t ht =>
    hnew _ (by rw [(h.held i t ht).1]; exact Place.hands_ne i)
  refine ⟨⟨owner, ⟨?_, h.once, ?_, h.given, ?_, h.running⟩, h.fresh _ le_rfl⟩, Nat.lt_succ_self _, rfl, ?_,
    rfl, rfl, ?_⟩
  · intro k' t ht
    show _ ∧ _ ∧ (Function.update m.arrays m.made _ t.array).length = t.cap
    rw [Function.update_of_ne (hpool k' t ht)]
    exact h.pooled k' t ht
  · intro i t ht
    show _ ∧ _ ∧ (Function.update m.arrays m.made _ t.array).length = t.cap
    rw [Function.update_of_ne (hheld i t ht)]
    exact h.held i t ht
  · intro a ha
    exact h.fresh a (Nat.le_of_succ_le ha)
  · show (Function.update m.arrays m.made _ m.made).length = C.capacity k
    rw [Function.update_self, List.length_replicate]
  · intro i t ht
    exact Function.update_of_ne (hheld i t ht) ..

theorem Owned.taken (h : Owned C owner m) (k pick : Nat) :
    Taken C k m (m.take C k pick).1 (m.take C k pick).2 := by
  unfold Memory.take
  cases hs : (m.pools k)[pick]? with
  | some s => exact h.taken_sweep hs
  | none => exact h.taken_make k

/-! ## the steps -/

theorem Owned.move (h : Owned C owner m) (i : ι) (next : σ) : Owned C owner (m.move i next) :=
  ⟨h.pooled, h.once, h.held, h.given, h.fresh, h.running⟩

theorem hold_self (i : ι) (x : Option Slice) : (m.hold i x).held i = x := Function.update_self ..

theorem hold_other (x : Option Slice) (hj : j ≠ i) : (m.hold i x).held j = m.held j :=
  Function.update_of_ne hj ..

theorem hold_none_eq {t : Slice} (h : (m.hold i none).held j = some t) :
    j ≠ i ∧ m.held j = some t := by
  rcases update_eq_some h with ⟨-, h⟩ | h
  · cases h
  · exact h

theorem Owned.hold_none (h : Owned C owner m) (i : ι) : Owned C owner (m.hold i none) where
  pooled := h.pooled
  once := h.once
  held := fun j t ht => h.held j t (hold_none_eq ht).2
  given := fun j t ht => h.given j t (hold_none_eq ht).2
  fresh := h.fresh
  running := h.running

theorem Taken.hold {k : Nat} {m' : Memory ι σ} (h : Taken C k m s m') (i : ι) {n : Nat}
    (hk : C.forSize n = some k) :
    ∃ owner, Owned C owner (m'.hold i (some { s with len := n })) := by
  have hn : n ≤ s.cap := by
    rw [h.cap]
    exact C.size_le hk
  obtain ⟨⟨owner, ho, hnone⟩, hmade, hcap, hlen, -⟩ := h
  have hpool : ∀ k, ∀ t ∈ m'.pools k, t.array ≠ s.array := by
    intro k t ht he
    have hp := (ho.pooled k t ht).1
    rw [he, hnone] at hp
    exact Place.pool_ne k hp.symm
  have hheld : ∀ j t, m'.held j = some t → t.array ≠ s.array := by
    intro j t ht he
    have hp := (ho.held j t ht).1
    rw [he, hnone] at hp
    exact Place.hands_ne j hp.symm
  have hplace := ho.place (.hands i) hmade hpool hheld
  refine ⟨_, hplace.pooled, hplace.once, ?_, ?_, hplace.fresh, hplace.running⟩
  · intro j t ht
    rcases update_eq_some ht with ⟨rfl, he⟩ | ⟨-, ht⟩
    · obtain rfl := Option.some.inj he
      exact ⟨Function.update_self .., hn, hlen⟩
    · exact hplace.held j t ht
  · intro j t ht
    rcases update_eq_some ht with ⟨-, he⟩ | ⟨-, ht⟩
    · obtain rfl := Option.some.inj he
      exact ⟨k, hk, hcap⟩
    · exact ho.given j t ht

theorem overwrite_length {d b : Bytes} (h : d.length ≤ b.length) :
    (overwrite d b).length = b.length := by
  unfold overwrite
  rw [List.length_append, List.length_drop]
  omega

theorem fill_length (i : ι) (data : Bytes) (h : Owned C owner m) (a : Nat) :
    ((m.fill i data).arrays a).length = (m.arrays a).length := by
  unfold Memory.fill
  cases hs : m.held i with
  | none => rfl
  | some s =>
    obtain ⟨-, hlen, hcap⟩ := h.held i s hs
    show (Function.update m.arrays s.array _ a).length = _
    by_cases ha : a = s.array
    · rw [ha, Function.update_self]
      apply overwrite_length
      rw [List.length_take]
      omega
    · rw [Function.update_of_ne ha]

theorem fill_rest (i : ι) (data : Bytes) (m : Memory ι σ) : (m.fill i data).pools = m.pools ∧
    (m.fill i data).held = m.held ∧ (m.fill i data).made = m.made ∧
    (m.fill i data).crashed = m.crashed ∧ (m.fill i data).pc = m.pc := by
  unfold Memory.fill
  cases m.held i <;> exact ⟨rfl, rfl, rfl, rfl, rfl⟩

theorem Owned.fill (h : Owned C owner m) (i : ι) (data : Bytes) :
    Owned C owner (m.fill i data) := by
  obtain ⟨hpools, hheld, hmade, hcrashed, -⟩ := fill_rest i data m
  refine ⟨?_, ?_, ?_, ?_, ?_, hcrashed.trans h.running⟩
  · rw [hpools]
    intro k t ht
    rw [fill_length i data h]
    exact h.pooled k t ht
  · rw [hpools]
    exact h.once
  · rw [hheld]
    intro j t ht
    rw [fill_length i data h]
    exact h.held j t ht
  · rw [hheld]
    exact h.given
  · rw [hmade]
    exact h.fresh

theorem Owned.put (h : Owned C owner m) (i : ι) : ∃ owner, Owned C owner (m.put C i) := by
  unfold Memory.put
  cases hs : m.held i with
  | none => exact ⟨owner, h⟩
  | some s =>
    dsimp only
    cases hk : C.ofCap s.cap with
    | none => exact ⟨owner, h.hold_none i⟩
    | some k =>
      obtain ⟨ho, hlen, hcap⟩ := h.held i s hs
      have hpool : ∀ k, ∀ t ∈ m.pools k, t.array ≠ s.array := by
        intro k t ht he
        have hp := (h.pooled k t ht).1
        rw [he, ho] at hp
        cases hp
      have hheld : ∀ j t, (m.hold i none).held j = some t → t.array ≠ s.array := by
        intro j t ht he
        obtain ⟨hj, ht⟩ := hold_none_eq ht
        have hp := (h.held j t ht).1
        rw [he, ho] at hp
        exact hj (Place.hands.inj hp).symm
      have hmade : s.array < m.made := h.made_of (by rw [ho]; exact Place.hands_ne i)
      have hplace := (h.hold_none i).place (.pool k) hmade hpool hheld
      refine ⟨_, ?_, ?_, hplace.held, hplace.given, hplace.fresh, hplace.running⟩
      · intro k' t ht
        rcases mem_update ht with ⟨rfl, ht⟩ | ⟨-, ht⟩
        · rcases List.mem_cons.mp ht with rfl | ht
          · exact ⟨Function.update_self .., C.cap_eq hk, hcap⟩
          · exact hplace.pooled k' t ht
        · exact hplace.pooled k' t ht
      · intro k'
        show ((Function.update m.pools k (s :: m.pools k) k').map Slice.array).Nodup
        by_cases hk' : k' = k
        · rw [hk', Function.update_self, List.map_cons, List.nodup_cons]
          refine ⟨?_, h.once k⟩
          intro hmem
          obtain ⟨t, ht, he⟩ := List.mem_map.mp hmem
          exact hpool k t ht he
        · rw [Function.update_of_ne hk']
          exact h.once k'

theorem Taken.upto {k size : Nat} {m' : Memory ι σ} (h : Taken C k m s m')
    (hk : C.forSize size = some k) : s.upto size = some { s with len := size } := by
  have hle := C.size_le hk
  unfold Slice.upto
  rw [if_pos (by rw [h.cap]; exact hle)]

theorem Owned.get (h : Owned C owner m) (i : ι) (size pick : Nat) (next : σ) :
    ∃ owner, Owned C owner (m.get C i size pick next) := by
  unfold Memory.get
  cases hk : C.forSize size with
  | none => exact ⟨owner, (h.hold_none i).move i next⟩
  | some k =>
    dsimp only
    have ht := h.taken k pick
    rw [ht.upto hk]
    obtain ⟨owner', ho⟩ := ht.hold i hk
    exact ⟨owner', ho.move i next⟩

theorem Owned.use (h : Owned C owner m) (i : ι) (pick : Nat) (u : Use σ ω) :
    ∃ owner, Owned C owner (m.use C i pick u) := by
  cases u with
  | get size next => exact h.get i size pick next
  | fill data next out => exact ⟨owner, (h.fill i data).move i next⟩
  | look next out => exact ⟨owner, h.move i next⟩
  | put next =>
    obtain ⟨owner', ho⟩ := h.put i
    exact ⟨owner', ho.move i next⟩

/-! ## what the others do -/

theorem view_eq {m m' : Memory ι σ} (hpc : m'.pc i = m.pc i) (hheld : m'.held i = m.held i)
    (hbytes : ∀ t, m.held i = some t → m'.arrays t.array = m.arrays t.array) :
    m'.view i = m.view i := by
  unfold Memory.view
  rw [hpc, hheld]
  cases ht : m.held i with
  | none => rfl
  | some t =>
    show (_, some ((m'.arrays t.array).take t.len)) = (_, some ((m.arrays t.array).take t.len))
    rw [hbytes t ht]

theorem move_view_other (next : σ) (hj : j ≠ i) : (m.move i next).view j = m.view j :=
  view_eq (Function.update_of_ne hj ..) rfl fun _ _ => rfl

theorem hold_view_other (x : Option Slice) (hj : j ≠ i) : (m.hold i x).view j = m.view j :=
  view_eq rfl (hold_other x hj) fun _ _ => rfl

theorem get_view_other (h : Owned C owner m) (size pick : Nat) (next : σ) (hj : j ≠ i) :
    (m.get C i size pick next).view j = m.view j := by
  unfold Memory.get
  cases hk : C.forSize size with
  | none =>
    dsimp only
    rw [move_view_other next hj, hold_view_other none hj]
  | some k =>
    dsimp only
    have ht := h.taken k pick
    rw [ht.upto hk]
    dsimp only
    rw [move_view_other next hj, hold_view_other _ hj]
    exact view_eq (congrFun ht.pc j) (congrFun ht.held j) (ht.kept j)

theorem fill_view_other (h : Owned C owner m) (data : Bytes) (hj : j ≠ i) :
    (m.fill i data).view j = m.view j := by
  unfold Memory.fill
  cases hs : m.held i with
  | none => rfl
  | some s =>
    exact view_eq rfl rfl fun t ht => Function.update_of_ne (h.apart ht hs hj) ..

theorem put_view_other (hj : j ≠ i) : (m.put C i).view j = m.view j := by
  unfold Memory.put
  cases m.held i with
  | none => rfl
  | some s =>
    dsimp only
    cases C.ofCap s.cap with
    | none => exact hold_view_other none hj
    | some k => exact view_eq rfl (hold_other (m := { m with pools := _ }) none hj) fun _ _ => rfl

theorem use_view_other (h : Owned C owner m) (pick : Nat) (u : Use σ ω) (hj : j ≠ i) :
    (m.use C i pick u).view j = m.view j := by
  cases u with
  | get size next => exact get_view_other h size pick next hj
  | fill data next out =>
    exact (move_view_other next hj).trans (fill_view_other h data hj)
  | look next out => exact move_view_other next hj
  | put next => exact (move_view_other next hj).trans (put_view_other hj)

/-! ## what a goroutine does itself -/

theorem move_view (i : ι) (next : σ) : (m.move i next).view i = (next, (m.view i).2) := by
  show (Function.update m.pc i next i, (m.view i).2) = _
  rw [Function.update_self]

theorem fit_eq {n : Nat} {b : Bytes} (h : b.length = n) : fit n b = b := by
  unfold fit
  rw [List.take_of_length_le h.le, h, Nat.sub_self]
  exact List.append_nil b

theorem overwrite_take {d b : Bytes} {n : Nat} (hd : d.length ≤ n) :
    (overwrite d b).take n = overwrite d (b.take n) := by
  unfold overwrite
  rw [List.take_append, List.take_of_length_le hd, List.drop_take]

theorem get_view (h : Owned C owner m) (i : ι) (size pick : Nat) (next : σ) :
    (m.get C i size pick next).view i = (next, (C.forSize size).map fun _ =>
      fit size ((m.get C i size pick next).content i)) := by
  have hget : ∀ k, C.forSize size = some k → ∃ b : Bytes, b.length = size ∧
      (m.get C i size pick next).view i = (next, some b) := by
    intro k hk
    have ht := h.taken k pick
    have hle := C.size_le hk
    unfold Memory.get
    rw [hk]
    dsimp only
    rw [ht.upto hk]
    dsimp only
    rw [move_view]
    unfold Memory.view
    rw [hold_self]
    refine ⟨_, ?_, rfl⟩
    show (((m.take C k pick).2.arrays (m.take C k pick).1.array).take size).length = size
    rw [List.length_take, ht.length, ht.cap]
    omega
  cases hk : C.forSize size with
  | none =>
    unfold Memory.get
    rw [hk]
    dsimp only
    rw [move_view]
    unfold Memory.view
    rw [hold_self]
    rfl
  | some k =>
    obtain ⟨b, hb, hview⟩ := hget k hk
    unfold Memory.content
    rw [hview]
    show (next, some b) = (next, some (fit size b))
    rw [fit_eq hb]

theorem fill_view (h : Owned C owner m) (i : ι) (data : Bytes) :
    ((m.fill i data).view i).2
      = (m.view i).2.map fun y => overwrite (data.take y.length) y := by
  unfold Memory.view
  rw [(fill_rest i data m).2.1]
  unfold Memory.fill
  cases hs : m.held i with
  | none => rfl
  | some s =>
    obtain ⟨-, hlen, hcap⟩ := h.held i s hs
    show some ((Function.update m.arrays s.array _ s.array).take s.len)
      = some (overwrite (data.take ((m.arrays s.array).take s.len).length) _)
    rw [Function.update_self, List.length_take, Nat.min_eq_left (by omega)]
    rw [overwrite_take (by rw [List.length_take]; omega)]
    rfl

theorem put_view (i : ι) : ((m.put C i).view i).2 = none := by
  unfold Memory.put Memory.view
  cases hs : m.held i with
  | none =>
    show (m.held i).map _ = none
    rw [hs]
    rfl
  | some s =>
    dsimp only
    cases C.ofCap s.cap <;> rw [hold_self] <;> rfl

theorem use_view (h : Owned C owner m) (i : ι) (pick : Nat) (u : Use σ ω) :
    (m.use C i pick u).view i = u.alone C ((m.use C i pick u).content i) (m.view i).2 := by
  cases u with
  | get size next => exact get_view h i size pick next
  | fill data next out =>
    show ((m.fill i data).move i next).view i = _
    rw [move_view, fill_view h]
    rfl
  | look next out => exact move_view i next
  | put next =>
    show ((m.put C i).move i next).view i = _
    rw [move_view, put_view]
    rfl

/-! ## runs -/

variable {act : ι → ε → σ → Use σ ω}

theorem step_owned (e : MemoryEvent ι ε) (m : Memory ι σ) (h : ∃ owner, Owned C owner m) :
    ∃ owner, Owned C owner (m.step C act e) := by
  obtain ⟨owner, h⟩ := h
  cases e with
  | go i e pick => exact h.use i pick _
  | sweep k n => exact ⟨owner, h.sweep k n⟩

theorem Memory.run_owned (act : ι → ε → σ → Use σ ω) (es : List (MemoryEvent ι ε)) (h : ∃ owner, Owned C owner m) :
    ∃ owner, Owned C owner (runAll (Memory.step C act) es m) :=
  runAll_invariant (I := fun m => ∃ owner, Owned C owner m) step_owned es h

theorem step_view (h : Owned C owner m) (i : ι) (e : MemoryEvent ι ε) :
    (m.step C act e).view i
      = runAll (aloneStep C (act i)) (Memory.ownOf C act i e m) (m.view i) := by
  cases e with
  | go j e pick =>
    by_cases hj : j = i
    · subst hj
      unfold Memory.ownOf
      dsimp only
      rw [if_pos rfl]
      exact use_view h j pick _
    · unfold Memory.ownOf
      dsimp only
      rw [if_neg hj]
      exact use_view_other h pick _ (Ne.symm hj)
  | sweep k n => rfl

theorem step_out (i : ι) (e : MemoryEvent ι ε) (m : Memory ι σ) :
    Memory.outOf act i e m
      = collect (aloneStep C (act i)) (aloneOut (act i)) (Memory.ownOf C act i e m) (m.view i) := by
  cases e with
  | go j e pick =>
    unfold Memory.outOf Memory.ownOf
    dsimp only
    by_cases hj : j = i
    · subst hj
      rw [if_pos rfl, if_pos rfl]
      exact (List.append_nil _).symm
    · rw [if_neg hj, if_neg hj]
      rfl
  | sweep k n => rfl

/-- **A goroutine goes its way as it would with a buffer of its own.** -/
theorem Memory.view_run (act : ι → ε → σ → Use σ ω) (es : List (MemoryEvent ι ε)) (i : ι)
    (h : ∃ owner, Owned C owner m) :
    (runAll (Memory.step C act) es m).view i
      = runAll (aloneStep C (act i)) (collect (Memory.step C act) (Memory.ownOf C act i) es m)
          (m.view i) :=
  runAll_refines (P := fun _ => True) (fun e m _ => step_owned e m)
    (fun e m _ ⟨_, h⟩ => step_view h i e) (fun _ _ => trivial) h

/-- **A goroutine gives what it would with a buffer of its own.** -/
theorem Memory.out_run (act : ι → ε → σ → Use σ ω) (es : List (MemoryEvent ι ε)) (i : ι)
    (h : ∃ owner, Owned C owner m) :
    collect (Memory.step C act) (Memory.outOf act i) es m
      = collect (aloneStep C (act i)) (aloneOut (act i))
          (collect (Memory.step C act) (Memory.ownOf C act i) es m) (m.view i) :=
  collect_refines (P := fun _ => True) (fun e m _ => step_owned e m)
    (fun e m _ ⟨_, h⟩ => step_view h i e) (fun e m _ _ => step_out i e m) (fun _ _ => trivial) h

end

end

end Go
