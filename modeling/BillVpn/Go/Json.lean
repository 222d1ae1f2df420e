import BillVpn.Go.Netip

/-!
# JSON values and how `encoding/json` stores them

The syntax is behind us: a document is a tree of values.  What is left is how the decoder puts a
value into a Go variable that already has one, since a `null` leaves most variables as they are
and a key may occur more than once in an object.

* `field`          every occurrence of a key is decoded, in order, onto the result so far;
* `field_keeps`    what one decoding keeps, the field keeps.

Keys are compared without regard to case, as the decoder does.  A value of the wrong type is an
error; the decoder may go on and report a later error instead, which the model does not follow.
-/

set_option linter.unusedVariables false

namespace Go

inductive Json where
  | null
  | bool (b : Bool)
  | num (literal : Bytes)
  | str (s : Bytes)
  | arr (items : List Json)
  | obj (members : List (Bytes × Json))
deriving Repr

namespace Json

def typeError {α : Type} : Res α := .err "json: cannot unmarshal"

def upperByte (c : UInt8) : UInt8 := if 97 ≤ c ∧ c ≤ 122 then c - 32 else c

/-- keys up to case: two letters outside ASCII fold to ASCII ones, the long `s` and the kelvin
sign -/
def foldName : Bytes → Bytes
  | 0xC5 :: 0xBF :: s => 83 :: foldName s
  | 0xE2 :: 0x84 :: 0xAA :: s => 75 :: foldName s
  | c :: s => upperByte c :: foldName s
  | [] => []

/-! ## variables -/

/-- an integer literal between `lo` and `hi` -/
def intLit (lo hi : Int) (s : Bytes) : Option Int :=
  let v : Option Int := match s with
    | 45 :: ds => (atoiNat ds).map fun n => -(n : Int)
    | ds => (atoiNat ds).map fun n => (n : Int)
  v.filter fun n => lo ≤ n ∧ n ≤ hi

/-- an integer variable of the range `lo..hi` -/
def integer (lo hi : Int) (cur : Int) : Json → Res Int
  | .null => .ok cur
  | .num s => match intLit lo hi s with
    | some n => .ok n
    | none => typeError
  | _ => typeError

/-- `int` on a 64-bit machine -/
def int : Int → Json → Res Int := integer (-2 ^ 63) (2 ^ 63 - 1)

def uint16 : Int → Json → Res Int := integer 0 65535

def string (cur : Bytes) : Json → Res Bytes
  | .null => .ok cur
  | .str s => .ok s
  | _ => typeError

def boolean (cur : Bool) : Json → Res Bool
  | .null => .ok cur
  | .bool b => .ok b
  | _ => typeError

/-- `*T`: a `null` is `nil`, anything else is decoded into a `T` -/
def pointer {α : Type} (zero : α) (dec : α → Json → Res α) (cur : Option α) : Json → Res (Option α)
  | .null => .ok none
  | j => (dec (cur.getD zero) j) >>= fun a => .ok (some a)

/-- an item is decoded into the element that is there, which a `null` leaves as it is -/
def elements {α : Type} (zero : α) (dec : α → Json → Res α) : List α → List Json → Res (List α)
  | _, [] => .ok []
  | cur, item :: items => do
    let a ← dec (cur.headD zero) item
    let rest ← elements zero dec cur.tail items
    pure (a :: rest)

/-- `[]T`; what a list that was cut short has left in the array is not modelled -/
def slice {α : Type} (zero : α) (dec : α → Json → Res α) (cur : List α) : Json → Res (List α)
  | .null => .ok []
  | .arr items => elements zero dec cur items
  | _ => typeError

/-- `struct`: the members of an object, or none for a `null`, which changes nothing -/
def members : Json → Res (List (Bytes × Json))
  | .null => .ok []
  | .obj kvs => .ok kvs
  | _ => typeError

/-! ## fields -/

section
variable {α : Type}

/-- the field `name` of a struct whose value so far is `cur` -/
def field (name : String) (dec : α → Json → Res α) (cur : α) (kvs : List (Bytes × Json)) : Res α :=
  (kvs.filter fun kv => foldName kv.1 = foldName (lit name)).foldlM (fun a kv => dec a kv.2) cur

theorem foldlM_keeps {β : Type} {f : α → β → Res α} {P : α → Prop}
    (hf : ∀ a b a', P a → f a b = .ok a' → P a') (l : List β) {a a' : α} (ha : P a)
    (h : l.foldlM f a = .ok a') : P a' := by
  induction l generalizing a with
  | nil => cases h; exact ha
  | cons b l ih =>
    rw [List.foldlM_cons, Res.bind_eq_ok] at h
    obtain ⟨a1, h1, h⟩ := h
    exact ih (hf a b a1 ha h1) h

theorem field_keeps {name : String} {dec : α → Json → Res α} {P : α → Prop}
    (hdec : ∀ a j a', P a → dec a j = .ok a' → P a') {kvs : List (Bytes × Json)} {a a' : α}
    (ha : P a) (h : field name dec a kvs = .ok a') : P a' :=
  foldlM_keeps (fun a kv a' => hdec a kv.2 a') _ ha h

end

end Json

/-! ## functions that stay closed -/

/-- functions of the standard library that the model does not look into -/
structure Std where
  toLower : Bytes → Bytes
  toUpper : Bytes → Bytes
  trimSpace : Bytes → Bytes
  parseDuration : Bytes → Except String Int
  lookupIP : Bytes → Except String (List IP)

end Go
