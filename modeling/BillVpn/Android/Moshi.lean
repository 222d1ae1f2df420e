import BillVpn.Go.HostPort
import BillVpn.Go.Json
import BillVpn.Go.Map
import BillVpn.Go.NetipText

/-!
# Objects that Moshi reads and `encoding/json` reads again

Moshi compares names as they are written, refuses a name that occurs twice, and leaves a `null` out
when it writes.  `encoding/json` compares names without regard to case and takes every occurrence.

* `prop`           a property of a class, with the value it has when its name is absent;
* `object`         the members that are written;
* `field_object`   what `encoding/json` finds in a written object;
* `field_only`     what it finds in an object that is cut down to some names;
* `Keeps`          a property under which both find the same.
-/

set_option linter.unusedVariables false

namespace Moshi
open Go

/-! ## reading -/

/-- a `String`; the text of a number will do -/
def str : Json → Option Bytes
  | .str s => some s
  | .num s => some s
  | _ => none

def bool : Json → Option Bool
  | .bool b => some b
  | _ => none

/-- an `Int` has 32 bits -/
def int : Json → Option Int
  | .num s => Json.intLit (-2 ^ 31) (2 ^ 31 - 1) s
  | _ => none

def nullable {α : Type} (dec : Json → Option α) : Json → Option (Option α)
  | .null => some none
  | j => (dec j).map some

/-- the members with exactly this name -/
def named (name : String) (kvs : List (Bytes × Json)) : List (Bytes × Json) :=
  kvs.filter fun kv => kv.1 = lit name

def prop {α : Type} (name : String) (dec : Json → Option α) (absent : α)
    (kvs : List (Bytes × Json)) : Option α :=
  match named name kvs with
  | [] => some absent
  | [kv] => dec kv.2
  | _ => none

/-- an entry of a `Map`; a key may be put again only over a `null` -/
def put {α : Type} (m : GoMap Bytes (Option α)) (key : Bytes) (v : Option α) :
    Option (GoMap Bytes (Option α)) :=
  match m.get key with
  | some (some _) => none
  | _ => some (m.set key v)

/-- a `Map`, but for the order of its keys -/
def map {α : Type} (dec : Json → Option α) : Json → Option (GoMap Bytes (Option α))
  | .obj kvs => kvs.foldlM (fun m kv => (nullable dec kv.2).bind (put m kv.1)) ∅
  | _ => none

/-! ## writing -/

def ofInt (n : Int) : Json := .num (itoaInt n)

def members (ms : List (String × Option Json)) : List (Bytes × Json) :=
  ms.filterMap fun m => m.2.map fun j => (lit m.1, j)

def object (ms : List (String × Option Json)) : Json := .obj (members ms)

def entries {α : Type} (enc : α → Json) (m : GoMap Bytes (Option α)) : List (Bytes × Json) :=
  m.pairs.filterMap fun e => e.2.map fun v => (e.1, enc v)

def ofMap {α : Type} (enc : α → Json) (m : GoMap Bytes (Option α)) : Json := .obj (entries enc m)

/-! ## properties -/

section
variable {α β : Type} {name : String} {kvs : List (Bytes × Json)}

theorem mem_named {kv : Bytes × Json} : kv ∈ named name kvs ↔ kv ∈ kvs ∧ kv.1 = lit name := by
  simp [named]

theorem prop_eq_some {dec : Json → Option α} {absent a : α} :
    prop name dec absent kvs = some a ↔ named name kvs = [] ∧ a = absent ∨
      ∃ j, named name kvs = [(lit name, j)] ∧ dec j = some a := by
  unfold prop
  rcases hn : named name kvs with _ | ⟨kv, _ | ⟨kv', rest⟩⟩
  · simp [eq_comm]
  · have hkey : kv.1 = lit name := (mem_named.mp (hn ▸ List.mem_singleton_self kv)).2
    have hkv : kv = (lit name, kv.2) := Prod.ext hkey rfl
    rw [hkv]
    simp
  · simp

/-! ## what the decoder finds -/

/-- the names differ also for a decoder that does not regard case -/
def Distinct (names : List String) : Prop := (names.map fun n => Json.foldName (lit n)).Nodup

instance (names : List String) : Decidable (Distinct names) :=
  inferInstanceAs (Decidable (List.Nodup _))

/-- the members with one of the names, spelled exactly -/
def only (names : List String) (kvs : List (Bytes × Json)) : List (Bytes × Json) :=
  kvs.filter fun kv => kv.1 ∈ names.map lit

theorem Distinct.eq_of_fold {names : List String} (h : Distinct names) {n m : String}
    (hn : n ∈ names) (hm : m ∈ names) (he : Json.foldName (lit n) = Json.foldName (lit m)) :
    n = m :=
  List.inj_on_of_nodup_map h hn hm he

variable {names : List String} {dec : β → Json → Res β} {cur : β}

theorem field_only (hd : Distinct names) (hname : name ∈ names) :
    Json.field name dec cur (only names kvs) =
      (named name kvs).foldlM (fun a kv => dec a kv.2) cur := by
  unfold Json.field only named
  rw [List.filter_filter]
  refine congrArg (fun l => List.foldlM _ cur l) (List.filter_congr fun kv _ => ?_)
  rw [← Bool.decide_and, decide_eq_decide]
  constructor
  · rintro ⟨hfold, hmem⟩
    obtain ⟨n, hn, hkey⟩ := List.mem_map.mp hmem
    rw [← hkey] at hfold ⊢
    rw [hd.eq_of_fold hn hname hfold]
  · intro hkey
    rw [hkey]
    exact ⟨rfl, List.mem_map_of_mem hname⟩

theorem field_only_absent (hne : ∀ n ∈ names, Json.foldName (lit n) ≠ Json.foldName (lit name)) :
    Json.field name dec cur (only names kvs) = .ok cur := by
  unfold Json.field only
  rw [List.filter_filter]
  have hnone : kvs.filter (fun kv => decide (Json.foldName kv.1 = Json.foldName (lit name)) &&
      decide (kv.1 ∈ names.map lit)) = [] := by
    apply List.filter_eq_nil_iff.mpr
    intro kv _ hkv
    simp only [Bool.and_eq_true, decide_eq_true_eq] at hkv
    obtain ⟨n, hn, hkey⟩ := List.mem_map.mp hkv.2
    rw [← hkey] at hkv
    exact hne n hn hkv.1
  rw [hnone]
  rfl

theorem field_members_absent {ms : List (String × Option Json)}
    (hne : ∀ m ∈ ms, Json.foldName (lit m.1) ≠ Json.foldName (lit name)) :
    Json.field name dec cur (members ms) = .ok cur := by
  induction ms with
  | nil => rfl
  | cons m ms ih =>
    obtain ⟨hm, hms⟩ := List.forall_mem_cons.mp hne
    obtain ⟨n, o⟩ := m
    cases o with
    | none => exact ih hms
    | some j =>
      show Json.field name dec cur ((lit n, j) :: members ms) = .ok cur
      unfold Json.field
      rw [List.filter_cons_of_neg (by simpa using hm)]
      exact ih hms

/-- a member that may have been left out -/
def present (dec : β → Json → Res β) (cur : β) : Option Json → Res β
  | none => .ok cur
  | some j => dec cur j

theorem field_object {ms : List (String × Option Json)} (hd : Distinct (ms.map (·.1)))
    {o : Option Json} (hmem : (name, o) ∈ ms) :
    Json.field name dec cur (members ms) = present dec cur o := by
  induction ms with
  | nil => cases hmem
  | cons m ms ih =>
    unfold Distinct at hd
    rw [List.map_cons, List.map_cons, List.nodup_cons] at hd
    have hrest : ∀ m' ∈ ms, Json.foldName (lit m'.1) ≠ Json.foldName (lit m.1) := by
      intro m' hm' he
      apply hd.1
      rw [← he]
      exact List.mem_map_of_mem (List.mem_map_of_mem hm')
    rcases List.mem_cons.mp hmem with rfl | htail
    · -- the member itself, and nothing behind it
      cases o with
      | none => exact (field_members_absent hrest : Json.field name dec cur (members ms) = .ok cur)
      | some j =>
        show Json.field name dec cur ((lit name, j) :: members ms) = dec cur j
        have hnil : (members ms).filter
            (fun kv => decide (Json.foldName kv.1 = Json.foldName (lit name))) = [] := by
          apply List.filter_eq_nil_iff.mpr
          intro kv hkv hfold
          obtain ⟨m', hm', hkv⟩ := List.mem_filterMap.mp hkv
          obtain ⟨j', hj', rfl⟩ := Option.map_eq_some_iff.mp hkv
          exact hrest m' hm' (by simpa using hfold)
        unfold Json.field
        rw [List.filter_cons_of_pos (by simp), hnil, List.foldlM_cons]
        cases dec cur j <;> rfl
    · have hskip : Json.foldName (lit m.1) ≠ Json.foldName (lit name) := fun he =>
        hrest (name, o) htail he.symm
      rw [← ih hd.2 htail]
      obtain ⟨n, o'⟩ := m
      cases o' with
      | none => rfl
      | some j =>
        show Json.field name dec cur ((lit n, j) :: members ms) = _
        unfold Json.field
        rw [List.filter_cons_of_neg (by simpa using hskip)]

theorem named_decoded {v : β} (h : Json.field name dec cur kvs = .ok v) {kv : Bytes × Json}
    (hkv : kv ∈ named name kvs) : ∃ a a', dec a kv.2 = .ok a' := by
  obtain ⟨hmem, hkey⟩ := mem_named.mp hkv
  have hall : ∀ (l : List (Bytes × Json)) (a : β), l.foldlM (fun a kv => dec a kv.2) a = .ok v →
      kv ∈ l → ∃ a a', dec a kv.2 = .ok a' := by
    intro l
    induction l with
    | nil =>
      intro a _ h
      cases h
    | cons e l ih =>
      intro a hf hin
      rw [List.foldlM_cons] at hf
      obtain ⟨a1, h1, h2⟩ := Res.bind_eq_ok.mp hf
      rcases List.mem_cons.mp hin with rfl | hin
      · exact ⟨a, a1, h1⟩
      · exact ih a1 h2 hin
  refine hall _ cur h (List.mem_filter.mpr ⟨hmem, ?_⟩)
  rw [hkey]
  exact decide_eq_true rfl

end

/-! ## numbers -/

theorem intLit_minus {lo hi : Int} {ds : Bytes} {m : Nat} (h : atoiNat ds = some m) :
    Json.intLit lo hi (45 :: ds) = (some (-(m : Int))).filter fun n => lo ≤ n ∧ n ≤ hi := by
  unfold Json.intLit
  simp only [h]
  rfl

theorem intLit_plain {lo hi : Int} {c : UInt8} {t : Bytes} {m : Nat} (hc : c ≠ 45)
    (h : atoiNat (c :: t) = some m) :
    Json.intLit lo hi (c :: t) = (some (m : Int)).filter fun n => lo ≤ n ∧ n ≤ hi := by
  unfold Json.intLit
  split
  · rename_i heq
    cases heq
    exact absurd rfl hc
  · rw [h]
    rfl

theorem intLit_itoaInt {lo hi n : Int} (hlo : lo ≤ n) (hhi : n ≤ hi) :
    Json.intLit lo hi (itoaInt n) = some n := by
  have hin : (some n).filter (fun n => decide (lo ≤ n ∧ n ≤ hi)) = some n := by
    rw [Option.filter_some, if_pos (by simp [hlo, hhi])]
  unfold itoaInt
  by_cases hneg : n < 0
  · rw [if_pos hneg, intLit_minus (atoiNat_itoa _), show -(n.natAbs : Int) = n by omega, hin]
  · obtain ⟨c, t, hct⟩ : ∃ c t, itoa n.natAbs = c :: t :=
      List.exists_cons_of_ne_nil (formatUint_ne_nil 10 _)
    have hc : c ≠ 45 := by
      rintro rfl
      exact absurd (itoa_all_digit n.natAbs 45 (hct ▸ List.mem_cons_self ..)) (by decide)
    rw [if_neg hneg, hct, intLit_plain hc (hct ▸ atoiNat_itoa _),
      show (n.natAbs : Int) = n by omega, hin]

theorem intLit_bounds {lo hi n : Int} {s : Bytes} (h : Json.intLit lo hi s = some n) :
    lo ≤ n ∧ n ≤ hi := by
  unfold Json.intLit at h
  have hin := (Option.filter_eq_some_iff.mp h).2
  simpa using hin

theorem intLit_mono {lo hi lo' hi' n : Int} {s : Bytes} (h : Json.intLit lo hi s = some n)
    (hlo : lo' ≤ lo) (hhi : hi ≤ hi') : Json.intLit lo' hi' s = some n := by
  obtain ⟨h1, h2⟩ := intLit_bounds h
  unfold Json.intLit at h ⊢
  refine Option.filter_eq_some_iff.mpr ⟨(Option.filter_eq_some_iff.mp h).1, ?_⟩
  simp only [decide_eq_true_eq]
  omega

/-! ## properties that mirror a field -/

section
variable {β : Type} {name : String} {kvs : List (Bytes × Json)}

/-- what is written under the name is to the decoder what was there -/
def Mirrors (name : String) (dec : β → Json → Res β) (cur : β) (kvs : List (Bytes × Json))
    (o : Option Json) : Prop :=
  (named name kvs).foldlM (fun a kv => dec a kv.2) cur = present dec cur o

def Passed (name : String) (dec : β → Json → Res β) (kvs : List (Bytes × Json)) : Prop :=
  ∀ kv ∈ named name kvs, ∃ a a', dec a kv.2 = .ok a'

theorem Mirrors.of_absent {dec : β → Json → Res β} {cur : β} (h : named name kvs = []) :
    Mirrors name dec cur kvs none := by
  unfold Mirrors
  rw [h]
  rfl

theorem Mirrors.of_once {dec : β → Json → Res β} {cur : β} {j : Json} {o : Option Json}
    (h : named name kvs = [(lit name, j)]) (hj : dec cur j = present dec cur o) :
    Mirrors name dec cur kvs o := by
  unfold Mirrors
  rw [h, List.foldlM_cons, ← hj]
  cases dec cur j <;> rfl

theorem Passed.once {dec : β → Json → Res β} {j : Json} (h : Passed name dec kvs)
    (hn : named name kvs = [(lit name, j)]) : ∃ a a', dec a j = .ok a' :=
  h (lit name, j) (hn ▸ List.mem_singleton_self _)

theorem text_mirrors {v : Option Bytes} (hp : Passed name (Json.pointer [] Json.string) kvs)
    (h : prop name (nullable str) none kvs = some v) :
    Mirrors name (Json.pointer [] Json.string) none kvs (v.map .str) := by
  rcases prop_eq_some.mp h with ⟨hn, rfl⟩ | ⟨j, hn, hj⟩
  · exact .of_absent hn
  · obtain ⟨a, a', ha⟩ := hp.once hn
    cases j with
    | null | str s =>
      cases hj
      exact .of_once hn rfl
    | num s => cases ha
    | bool b | arr l | obj l => cases hj

theorem int_mirrors {v : Option Int} (h : prop name (nullable int) none kvs = some v) :
    Mirrors name (Json.pointer 0 Json.int) none kvs (v.map ofInt) := by
  rcases prop_eq_some.mp h with ⟨hn, rfl⟩ | ⟨j, hn, hj⟩
  · exact .of_absent hn
  · cases j with
    | null =>
      cases hj
      exact .of_once hn rfl
    | num s =>
      obtain ⟨n, hlit, rfl⟩ := Option.map_eq_some_iff.mp hj
      obtain ⟨hlo, hhi⟩ := intLit_bounds hlit
      have hwide : Json.intLit (-2 ^ 63) (2 ^ 63 - 1) s = some n :=
        intLit_mono hlit (by norm_num) (by norm_num)
      refine .of_once hn ?_
      simp only [Option.map_some, present, ofInt, Json.pointer, Json.int, Json.integer, hwide]
      rw [intLit_itoaInt (by omega) (by omega)]
    | bool b | str s | arr l | obj l => cases hj

/-- a text that the decoder turns into something else, and that cannot be `null` -/
theorem coded_mirrors {dec : β → Json → Res β} {cur : β} {v : Option Bytes}
    (hstr : ∀ a j a', dec a j = .ok a' → ∃ s, j = .str s) (hp : Passed name dec kvs)
    (h : prop name (nullable str) none kvs = some v) : Mirrors name dec cur kvs (v.map .str) := by
  rcases prop_eq_some.mp h with ⟨hn, rfl⟩ | ⟨j, hn, hj⟩
  · exact .of_absent hn
  · obtain ⟨a, a', ha⟩ := hp.once hn
    obtain ⟨s, rfl⟩ := hstr a j a' ha
    cases hj
    exact .of_once hn rfl

/-! ## properties that can be read -/

/-- at most one occurrence, and every number in it has 32 bits -/
structure Plain (name : String) (kvs : List (Bytes × Json)) : Prop where
  once : (named name kvs).length ≤ 1
  fits : ∀ kv ∈ named name kvs, ∀ s, kv.2 = .num s →
    (Json.intLit (-2 ^ 31) (2 ^ 31 - 1) s).isSome = true

theorem Plain.cases (h : Plain name kvs) :
    named name kvs = [] ∨ ∃ j, named name kvs = [(lit name, j)] := by
  have honce := h.once
  rcases hn : named name kvs with _ | ⟨kv, _ | ⟨kv', rest⟩⟩
  · exact .inl rfl
  · have hkey : kv.1 = lit name := (mem_named.mp (hn ▸ List.mem_singleton_self kv)).2
    have hkv : kv = (lit name, kv.2) := Prod.ext hkey rfl
    exact .inr ⟨kv.2, by rw [← hkv]⟩
  · rw [hn] at honce
    simp at honce

theorem prop_isSome {α : Type} {dec : Json → Option α} {absent : α} :
    (∃ a, prop name dec absent kvs = some a) ↔ named name kvs = [] ∨
      ∃ j, named name kvs = [(lit name, j)] ∧ ∃ a, dec j = some a := by
  constructor
  · rintro ⟨a, h⟩
    rcases prop_eq_some.mp h with ⟨hn, -⟩ | ⟨j, hn, hj⟩
    · exact .inl hn
    · exact .inr ⟨j, hn, a, hj⟩
  · rintro (hn | ⟨j, hn, a, hj⟩)
    · exact ⟨absent, prop_eq_some.mpr (.inl ⟨hn, rfl⟩)⟩
    · exact ⟨a, prop_eq_some.mpr (.inr ⟨j, hn, hj⟩)⟩

/-- where the decoder has passed a value, only a repeated name or a large number is in the way -/
theorem plain_iff {α : Type} {dec : Json → Option α} {absent : α}
    (hread : ∀ j, named name kvs = [(lit name, j)] → ((∃ a, dec j = some a) ↔
      ∀ s, j = .num s → (Json.intLit (-2 ^ 31) (2 ^ 31 - 1) s).isSome = true)) :
    (∃ a, prop name dec absent kvs = some a) ↔ Plain name kvs := by
  rw [prop_isSome]
  constructor
  · rintro (hn | ⟨j, hn, hj⟩)
    · exact ⟨by rw [hn]; exact Nat.zero_le 1, fun kv hkv => by rw [hn] at hkv; cases hkv⟩
    · refine ⟨by rw [hn]; exact Nat.le_refl 1, fun kv hkv => ?_⟩
      rw [hn] at hkv
      rw [List.mem_singleton.mp hkv]
      exact (hread j hn).mp hj
  · intro h
    rcases h.cases with hn | ⟨j, hn⟩
    · exact .inl hn
    · exact .inr ⟨j, hn, (hread j hn).mpr (h.fits _ (hn ▸ List.mem_singleton_self _))⟩

/-- a nullable property that the decoder finds again as it was -/
structure Keeps {α : Type} (name : String) (read : Json → Option α) (enc : α → Json)
    (dec : β → Json → Res β) (cur : β) (kvs : List (Bytes × Json)) : Prop where
  plain : (∃ v, prop name (nullable read) none kvs = some v) ↔ Plain name kvs
  mirrors : ∀ v, prop name (nullable read) none kvs = some v → Mirrors name dec cur kvs (v.map enc)

theorem text_keeps (hp : Passed name (Json.pointer [] Json.string) kvs) :
    Keeps name str .str (Json.pointer [] Json.string) none kvs := by
  refine ⟨plain_iff fun j hn => ?_, fun v h => text_mirrors hp h⟩
  obtain ⟨a, a', ha⟩ := hp.once hn
  cases j with
  | null | str s => simp [nullable, str]
  | num s => cases ha
  | bool b | arr l | obj l => cases ha

theorem int_keeps (hp : Passed name (Json.pointer 0 Json.int) kvs) :
    Keeps name int ofInt (Json.pointer 0 Json.int) none kvs := by
  refine ⟨plain_iff fun j hn => ?_, fun v h => int_mirrors h⟩
  obtain ⟨a, a', ha⟩ := hp.once hn
  cases j with
  | null => simp [nullable]
  | num s => simp [nullable, int, Option.isSome_iff_exists]
  | bool b | str s | arr l | obj l => cases ha

theorem coded_keeps {dec : β → Json → Res β} {cur : β}
    (hstr : ∀ a j a', dec a j = .ok a' → ∃ s, j = .str s) (hp : Passed name dec kvs) :
    Keeps name str .str dec cur kvs := by
  refine ⟨plain_iff fun j hn => ?_, fun v h => coded_mirrors hstr hp h⟩
  obtain ⟨a, a', ha⟩ := hp.once hn
  obtain ⟨s, rfl⟩ := hstr a j a' ha
  simp [nullable, str]

end

/-! ## maps -/

section
variable {α : Type} {dec : Json → Option α}

theorem nullable_some {j : Json} {a : α} : nullable dec j = some (some a) ↔ j ≠ .null ∧ dec j = some a := by
  cases j <;> simp [nullable]

theorem nullable_none {j : Json} : nullable dec j = some none ↔ j = .null := by
  cases j <;> simp [nullable]

theorem put_eq_some {m m' : GoMap Bytes (Option α)} {key : Bytes} {v : Option α} :
    put m key v = some m' ↔ (∀ a, m.get key ≠ some (some a)) ∧ m' = m.set key v := by
  unfold put
  rcases m.get key with _ | _ | a
  · simp [eq_comm]
  · simp [eq_comm]
  · simp

theorem mapFold_isSome (es : List (Bytes × Json)) : ∀ m : GoMap Bytes (Option α),
    (∃ m', es.foldlM (fun m kv => (nullable dec kv.2).bind (put m kv.1)) m = some m') ↔
      (∀ e ∈ es, ∃ v, nullable dec e.2 = some v) ∧
      es.Pairwise (fun e e' => e.1 = e'.1 → e.2 = .null) ∧
      ∀ e ∈ es, ∀ a, m.get e.1 ≠ some (some a) := by
  induction es with
  | nil => simp
  | cons e es ih =>
    intro m
    constructor
    · rintro ⟨m', h⟩
      rw [List.foldlM_cons] at h
      obtain ⟨m1, h1, h⟩ := Option.bind_eq_some_iff.mp h
      obtain ⟨v, hv, h1⟩ := Option.bind_eq_some_iff.mp h1
      obtain ⟨hfree, rfl⟩ := put_eq_some.mp h1
      obtain ⟨hdec, hpair, hrest⟩ := (ih _).mp ⟨m', h⟩
      refine ⟨List.forall_mem_cons.mpr ⟨⟨v, hv⟩, hdec⟩, List.pairwise_cons.mpr ⟨?_, hpair⟩,
        List.forall_mem_cons.mpr ⟨hfree, ?_⟩⟩
      · -- a later entry of the key finds the one just put
        intro e' he' hkey
        cases v with
        | none => exact nullable_none.mp hv
        | some a =>
          refine absurd ?_ (hrest e' he' a)
          rw [← hkey, GoMap.get_set_self]
      · intro e' he' a hget
        by_cases hkey : e'.1 = e.1
        · exact hfree a (hkey ▸ hget)
        · refine hrest e' he' a ?_
          rw [GoMap.get_set, if_neg hkey]
          exact hget
    · rintro ⟨hdec, hpair, hfree⟩
      obtain ⟨⟨v, hv⟩, hdec⟩ := List.forall_mem_cons.mp hdec
      obtain ⟨hfst, hpair⟩ := List.pairwise_cons.mp hpair
      obtain ⟨hfree0, hfree⟩ := List.forall_mem_cons.mp hfree
      obtain ⟨m', h⟩ := (ih (m.set e.1 v)).mpr ⟨hdec, hpair, by
        intro e' he' a hget
        rw [GoMap.get_set] at hget
        by_cases hkey : e'.1 = e.1
        · rw [if_pos hkey] at hget
          cases hget
          rw [hfst e' he' hkey.symm] at hv
          cases hv
        · rw [if_neg hkey] at hget
          exact hfree e' he' a hget⟩
      refine ⟨m', ?_⟩
      rw [List.foldlM_cons, hv]
      show (put m e.1 v).bind _ = _
      rw [put_eq_some.mpr ⟨hfree0, rfl⟩]
      exact h

theorem mapFold_get (es : List (Bytes × Json)) : ∀ {m m' : GoMap Bytes (Option α)},
    es.foldlM (fun m kv => (nullable dec kv.2).bind (put m kv.1)) m = some m' →
      ∀ key a, m'.get key = some (some a) ↔
        (∃ j, (key, j) ∈ es ∧ nullable dec j = some (some a)) ∨ m.get key = some (some a) := by
  induction es with
  | nil =>
    intro m m' h key a
    cases h
    simp
  | cons e es ih =>
    intro m m' h key a
    rw [List.foldlM_cons] at h
    obtain ⟨m1, h1, h⟩ := Option.bind_eq_some_iff.mp h
    obtain ⟨v, hv, h1⟩ := Option.bind_eq_some_iff.mp h1
    obtain ⟨hfree, rfl⟩ := put_eq_some.mp h1
    rw [ih h key a, GoMap.get_set]
    by_cases hkey : key = e.1
    · rw [if_pos hkey, hkey]
      constructor
      · rintro (⟨j, hj, hja⟩ | hva)
        · exact .inl ⟨j, List.mem_cons_of_mem _ hj, hja⟩
        · cases hva
          exact .inl ⟨e.2, List.mem_cons_self .., hv⟩
      · rintro (⟨j, hj, hja⟩ | hold)
        · rcases List.mem_cons.mp hj with heq | hj
          · have hj2 : j = e.2 := congrArg Prod.snd heq
            rw [← hj2, hja] at hv
            exact .inr (congrArg some (Option.some.inj hv).symm)
          · exact .inl ⟨j, hj, hja⟩
        · exact absurd hold (hfree a)
    · rw [if_neg hkey]
      constructor
      · rintro (⟨j, hj, hja⟩ | hold)
        · exact .inl ⟨j, List.mem_cons_of_mem _ hj, hja⟩
        · exact .inr hold
      · rintro (⟨j, hj, hja⟩ | hold)
        · rcases List.mem_cons.mp hj with heq | hj
          · exact absurd (congrArg Prod.fst heq) hkey
          · exact .inl ⟨j, hj, hja⟩
        · exact .inr hold

theorem mem_entries {enc : α → Json} {m : GoMap Bytes (Option α)} {key : Bytes} {j : Json} :
    (key, j) ∈ entries enc m ↔ ∃ a, m.get key = some (some a) ∧ j = enc a := by
  unfold entries
  rw [List.mem_filterMap]
  constructor
  · rintro ⟨⟨k, o⟩, hmem, he⟩
    obtain ⟨a, rfl, he⟩ := Option.map_eq_some_iff.mp he
    cases he
    exact ⟨a, GoMap.mem_pairs.mp hmem, rfl⟩
  · rintro ⟨a, hget, rfl⟩
    exact ⟨(key, some a), GoMap.mem_pairs.mpr hget, rfl⟩

theorem entries_nodup (enc : α → Json) (m : GoMap Bytes (Option α)) :
    ((entries enc m).map (·.1)).Nodup := by
  have hkeys : (m.pairs.map (·.1)).Nodup := by
    have h := m.nodupKeys
    unfold GoMap.pairs
    rw [List.map_map]
    exact h
  refine List.Nodup.sublist ?_ hkeys
  unfold entries
  generalize m.pairs = l
  induction l with
  | nil => exact List.Sublist.refl _
  | cons e l ih =>
    obtain ⟨k, o⟩ := e
    cases o with
    | none => exact ih.cons _
    | some a => exact ih.cons_cons _

end

end Moshi
