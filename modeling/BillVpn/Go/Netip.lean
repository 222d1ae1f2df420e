import BillVpn.Go.Basic

/-!
# Internet addresses as Go's `net/netip` and `net` packages treat them

An address is a number below `2^32` (IPv4) or below `2^128` with an optional zone (IPv6); the
IPv4-mapped addresses `::ffff:a.b.c.d` are IPv6 addresses of their own.

* `Addr.next`          the following address, `none` (Go: the invalid zero `Addr`) at the top;
* `Pfx`                a CIDR block as it is WRITTEN: `netip.Prefix` keeps the host bits of its address;
* `Addr.text`          `Addr.String()`: dotted decimal, or RFC 5952 text with the leftmost longest
                       run of at least two zero groups cut to `::`;
* `parseAddr`, `parsePfx`, `parseIP`   `netip.ParseAddr`, `netip.ParsePrefix`, `net.ParseIP`;
* `IP`, `ipString`     a `net.IP` byte slice and its `String()`.
-/

set_option linter.unusedVariables false

namespace Go

instance neZero_v4 : NeZero (2 ^ 32) := ⟨by decide⟩

inductive Addr where
  | v4 (n : Fin (2 ^ 32))
  | v6 (n : Fin (2 ^ 128)) (zone : Bytes)
deriving DecidableEq

namespace Addr

def bitLen : Addr → Nat
  | .v4 _ => 32
  | .v6 _ _ => 128

def val : Addr → Nat
  | .v4 n => n.val
  | .v6 n _ => n.val

def zone : Addr → Bytes
  | .v4 _ => []
  | .v6 _ z => z

def is4 : Addr → Bool
  | .v4 _ => true
  | .v6 _ _ => false

/-- `::ffff:0:0/96` -/
def is4In6 : Addr → Bool
  | .v4 _ => false
  | .v6 n _ => n.val / 2 ^ 32 == 0xffff

/-- `Unmap`: the IPv4 address inside a mapped one -/
def unmap : Addr → Addr
  | .v4 n => .v4 n
  | .v6 n z => if n.val / 2 ^ 32 = 0xffff then .v4 ⟨n.val % 2 ^ 32, Nat.mod_lt _ (by norm_num)⟩
      else .v6 n z

/-- the address with value `k` in the family of `a` -/
def withVal (a : Addr) (k : Nat) : Option Addr :=
  match a with
  | .v4 _ => if h : k < 2 ^ 32 then some (.v4 ⟨k, h⟩) else none
  | .v6 _ z => if h : k < 2 ^ 128 then some (.v6 ⟨k, h⟩ z) else none

/-- `Next()` -/
def next (a : Addr) : Option Addr := a.withVal (a.val + 1)

theorem withVal_v4 (n : Fin (2 ^ 32)) (k : Nat) :
    (Addr.v4 n).withVal k = if h : k < 2 ^ 32 then some (.v4 ⟨k, h⟩) else none := rfl

theorem withVal_v6 (n : Fin (2 ^ 128)) (z : Bytes) (k : Nat) :
    (Addr.v6 n z).withVal k = if h : k < 2 ^ 128 then some (.v6 ⟨k, h⟩ z) else none := rfl

theorem withVal_eq_some {a b : Addr} {k : Nat} :
    a.withVal k = some b ↔ b.bitLen = a.bitLen ∧ b.zone = a.zone ∧ b.val = k := by
  constructor
  · intro h
    cases a with
    | v4 n =>
      rw [withVal_v4] at h
      by_cases hk : k < 2 ^ 32
      · rw [dif_pos hk] at h; cases h; exact ⟨rfl, rfl, rfl⟩
      · rw [dif_neg hk] at h; cases h
    | v6 n z =>
      rw [withVal_v6] at h
      by_cases hk : k < 2 ^ 128
      · rw [dif_pos hk] at h; cases h; exact ⟨rfl, rfl, rfl⟩
      · rw [dif_neg hk] at h; cases h
  · rintro ⟨hl, hz, rfl⟩
    cases a with
    | v4 n =>
      cases b with
      | v4 m => rw [withVal_v4]; exact dif_pos m.isLt
      | v6 m z => exact absurd hl (by simp [bitLen])
    | v6 n z =>
      cases b with
      | v4 m => exact absurd hl (by simp [bitLen])
      | v6 m z' =>
        have e : z' = z := hz
        rw [withVal_v6, e]; exact dif_pos m.isLt

end Addr

/-! ## blocks -/

/-- `netip.Prefix`: an address without zone and a number of leading bits.  The address is kept
as written; only its first `bits` bits matter to `contains`. -/
structure Pfx where
  addr : Addr
  bits : Nat
  zoneless : addr.zone = []
  bits_le : bits ≤ addr.bitLen
deriving DecidableEq

namespace Pfx

def hostBits (p : Pfx) : Nat := p.addr.bitLen - p.bits

/-- `Contains` -/
def contains (p : Pfx) (a : Addr) : Bool :=
  a.zone == [] && a.bitLen == p.addr.bitLen && a.val / 2 ^ p.hostBits == p.addr.val / 2 ^ p.hostBits

/-- `Contains` of a possibly invalid address -/
def containsOpt (p : Pfx) : Option Addr → Bool
  | none => false
  | some a => p.contains a

/-- value of the first address of the block -/
def base (p : Pfx) : Nat := p.addr.val / 2 ^ p.hostBits * 2 ^ p.hostBits

/-- value one past the last address of the block -/
def stop (p : Pfx) : Nat := p.base + 2 ^ p.hostBits

theorem contains_iff {p : Pfx} {a : Addr} :
    p.contains a = true ↔
      a.zone = [] ∧ a.bitLen = p.addr.bitLen ∧ p.base ≤ a.val ∧ a.val < p.stop := by
  have hpos : 0 < 2 ^ p.hostBits := Nat.two_pow_pos _
  have key : a.val / 2 ^ p.hostBits = p.addr.val / 2 ^ p.hostBits ↔
      p.base ≤ a.val ∧ a.val < p.stop := by
    unfold stop base
    rw [Nat.div_eq_iff hpos]
    constructor <;> rintro ⟨h1, h2⟩ <;> exact ⟨by omega, by omega⟩
  unfold contains
  simp only [Bool.and_eq_true, beq_iff_eq, key, and_assoc]

theorem base_le (p : Pfx) : p.base ≤ p.addr.val := Nat.div_mul_le_self _ _

/-- the address with number `k` in the family of the block -/
def nth (p : Pfx) (k : Nat) : Option Addr := p.addr.withVal k

theorem nth_isSome {p : Pfx} {k : Nat} (h : k < 2 ^ p.addr.bitLen) : ∃ a, p.nth k = some a := by
  unfold nth
  cases hp : p.addr with
  | v4 n => rw [hp] at h; exact ⟨_, dif_pos h⟩
  | v6 n z => rw [hp] at h; exact ⟨_, dif_pos h⟩

theorem nth_val {p : Pfx} {k : Nat} {a : Addr} (h : p.nth k = some a) : a.val = k :=
  (Addr.withVal_eq_some.mp h).2.2

theorem nth_bind_next {p : Pfx} {k : Nat} (h : k < 2 ^ p.addr.bitLen) :
    (p.nth k).bind Addr.next = p.nth (k + 1) := by
  obtain ⟨a, ha⟩ := nth_isSome h
  obtain ⟨hl, hz, hv⟩ := Addr.withVal_eq_some.mp ha
  rw [ha, Option.bind_some]
  ext b
  show a.withVal (a.val + 1) = some b ↔ p.addr.withVal (k + 1) = some b
  rw [Addr.withVal_eq_some, Addr.withVal_eq_some, hl, hz, hv]

theorem contains_nth {p : Pfx} {k : Nat} {a : Addr} (h : p.nth k = some a) :
    p.contains a = true ↔ p.base ≤ k ∧ k < p.stop := by
  obtain ⟨hl, hz, hv⟩ := Addr.withVal_eq_some.mp h
  rw [contains_iff, hl, hz, hv, p.zoneless]
  simp

theorem nth_inj {p : Pfx} {j k : Nat} (hj : j < 2 ^ p.addr.bitLen) (h : p.nth j = p.nth k) :
    j = k := by
  obtain ⟨a, ha⟩ := nth_isSome hj
  rw [← nth_val ha, nth_val (h ▸ ha)]

end Pfx

/-! ## text of numbers -/

/-- `strconv.FormatUint(n, b)` -/
def formatUint (b n : Nat) : Bytes := (Nat.toDigits b n).map Char.toUInt8

def itoa (n : Nat) : Bytes := formatUint 10 n

def isDigit (c : UInt8) : Bool := 48 ≤ c && c ≤ 57

def isHex (c : UInt8) : Bool := isDigit c || (97 ≤ c && c ≤ 102) || (65 ≤ c && c ≤ 70)

def hexVal (c : UInt8) : Nat :=
  if isDigit c then c.toNat - 48 else if 97 ≤ c then c.toNat - 87 else c.toNat - 55

/-- value of a digit string in base `b` -/
def digitsVal (b : Nat) (s : Bytes) : Nat := s.foldl (fun acc c => acc * b + hexVal c) 0

/-- `strconv.Atoi` on unsigned decimal text: the sign is treated by its callers -/
def atoiNat (s : Bytes) : Option Nat :=
  if s ≠ [] ∧ s.all isDigit then some (digitsVal 10 s) else none

/-! ## text of addresses -/

def dot : UInt8 := 46
def colon : UInt8 := 58
def percent : UInt8 := 37
def slash : UInt8 := 47

/-- `a.b.c.d` -/
def dotted (n : Nat) : Bytes :=
  [dot].intercalate [itoa (n / 2 ^ 24 % 256), itoa (n / 2 ^ 16 % 256), itoa (n / 2 ^ 8 % 256),
    itoa (n % 256)]

/-- the eight 16-bit groups -/
def groups (n : Nat) : List Nat :=
  [n / 2 ^ 112 % 65536, n / 2 ^ 96 % 65536, n / 2 ^ 80 % 65536, n / 2 ^ 64 % 65536,
    n / 2 ^ 48 % 65536, n / 2 ^ 32 % 65536, n / 2 ^ 16 % 65536, n % 65536]

def hexGroups (gs : List Nat) : Bytes := [colon].intercalate (gs.map (formatUint 16))

/-- length of the run of zero groups at the front -/
def zeros (gs : List Nat) : Nat := (gs.takeWhile (· == 0)).length

def runLen : Option (Nat × Nat) → Nat
  | none => 0
  | some (s, e) => e - s

/-- the leftmost longest run of at least two zero groups, as `(start, stop)` -/
def zeroRun (gs : List Nat) : Option (Nat × Nat) :=
  (List.range gs.length).foldl (fun best i =>
    let l := zeros (gs.drop i)
    if 2 ≤ l ∧ runLen best < l then some (i, i + l) else best) none

def text6 (gs : List Nat) : Bytes :=
  match zeroRun gs with
  | none => hexGroups gs
  | some (s, e) => hexGroups (gs.take s) ++ [colon, colon] ++ hexGroups (gs.drop e)

def zoneText : Bytes → Bytes
  | [] => []
  | z => percent :: z

/-- `Addr.String()` -/
def Addr.text : Addr → Bytes
  | .v4 n => dotted n.val
  | .v6 n z =>
    if n.val / 2 ^ 32 = 0xffff then lit "::ffff:" ++ dotted (n.val % 2 ^ 32) ++ zoneText z
    else text6 (groups n.val) ++ zoneText z

/-! ## parsing -/

/-- one octet: digits, no leading zero, at most 255 -/
def octet (s : Bytes) : Option Nat :=
  if s ≠ [] ∧ s.all isDigit ∧ (s.length = 1 ∨ s.head? ≠ some 48) ∧ digitsVal 10 s ≤ 255
  then some (digitsVal 10 s) else none

/-- `parseIPv4Fields` -/
def parse4Fields (s : Bytes) : Option Nat :=
  match (s.splitOn dot).mapM octet with
  | some [a, b, c, d] => some (a * 2 ^ 24 + b * 2 ^ 16 + c * 2 ^ 8 + d)
  | _ => none

/-- one group of at most four hex digits, and what follows it -/
def hexField (s : Bytes) : Option (Nat × Bytes) :=
  let ds := s.takeWhile isHex
  if ds = [] ∨ 4 < ds.length then none else some (digitsVal 16 ds, s.dropWhile isHex)

/-- The loop of `parseIPv6`: `k` more groups fit, `gs` were read, `e` is the place of `::`. -/
def loop6 : Nat → Bytes → List Nat → Option Nat → Option (List Nat × Option Nat × Bytes)
  | 0, s, gs, e => some (gs, e, s)
  | k + 1, s, gs, e =>
    match hexField s with
    | none => none
    | some (acc, []) => some (gs ++ [acc], e, [])
    | some (acc, c :: rest) =>
      if c = dot then
        -- a trailing dotted address takes the place of two groups
        if e = none ∧ gs.length ≠ 6 then none
        else if 8 < gs.length + 2 then none
        else match parse4Fields s with
          | none => none
          | some n => some (gs ++ [n / 65536, n % 65536], e, [])
      else if c ≠ colon then none
      else match rest with
        | [] => none
        | c' :: rest' =>
          if c' = colon then
            if e.isSome then none
            else if rest' = [] then some (gs ++ [acc], some (gs.length + 1), [])
            else loop6 k rest' (gs ++ [acc]) (some (gs.length + 1))
          else loop6 k (c' :: rest') (gs ++ [acc]) e

/-- value of eight groups -/
def ofGroups (gs : List Nat) : Nat := gs.foldl (fun acc g => acc * 65536 + g) 0

/-- expansion of `::`, and the checks after the loop -/
def finish6 : Option (List Nat × Option Nat × Bytes) → Option (List Nat)
  | none => none
  | some (gs, e, rest) =>
    if rest ≠ [] then none
    else if gs.length < 8 then
      match e with
      | none => none
      | some i => some (gs.take i ++ List.replicate (8 - gs.length) 0 ++ gs.drop i)
    else if e.isSome then none
    else some gs

/-- the groups of an IPv6 text without zone -/
def parse6Groups (s : Bytes) : Option (List Nat) :=
  match s with
  | 58 :: 58 :: [] => some (List.replicate 8 0)
  | 58 :: 58 :: rest => finish6 (loop6 8 rest [] (some 0))
  | _ => finish6 (loop6 8 s [] none)

def addr6 (gs : List Nat) (zone : Bytes) : Option Addr :=
  if h : ofGroups gs < 2 ^ 128 then some (.v6 ⟨ofGroups gs, h⟩ zone) else none

/-- `parseIPv6`: the zone is split off first and must not be empty -/
def parse6 (s : Bytes) : Option Addr :=
  let body := s.takeWhile (· != percent)
  match s.dropWhile (· != percent) with
  | [] => (parse6Groups body).bind (addr6 · [])
  | _ :: zone => if zone = [] then none else (parse6Groups body).bind (addr6 · zone)

def parse4 (s : Bytes) : Option Addr :=
  match parse4Fields s with
  | none => none
  | some n => if h : n < 2 ^ 32 then some (.v4 ⟨n, h⟩) else none

/-- `netip.ParseAddr`: the first `.`, `:` or `%` decides the family -/
def parseAddr (s : Bytes) : Option Addr :=
  match s.find? (fun c => c == dot || c == colon || c == percent) with
  | none => none
  | some c => if c = dot then parse4 s else if c = colon then parse6 s else none

/-- `netip.ParsePrefix`: the text after the last `/` is a number without sign or leading zero -/
def parsePfx (s : Bytes) : Option Pfx :=
  if slash ∈ s then
    let bitsText := (s.reverse.takeWhile (· != slash)).reverse
    let addrText := ((s.reverse.dropWhile (· != slash)).drop 1).reverse
    match parseAddr addrText with
    | none => none
    | some a =>
      if hz : a.zone = [] then
        if 1 < bitsText.length ∧ bitsText.head? = some 48 then none
        else match atoiNat bitsText with
          | none => none
          | some bits => if hb : bits ≤ a.bitLen then some ⟨a, bits, hz, hb⟩ else none
      else none
  else none

/-! ## `net.IP` -/

/-- a `net.IP`: the empty slice is `nil` -/
abbrev IP := Bytes

/-- big-endian bytes of `n` -/
def toBytes (len n : Nat) : Bytes :=
  (List.range len).map fun i => UInt8.ofNat (n / 256 ^ (len - 1 - i) % 256)

def ofBytes (b : Bytes) : Nat := b.foldl (fun acc c => acc * 256 + c.toNat) 0

/-- `As16`: an IPv4 address in its mapped form -/
def Addr.as16 : Addr → IP
  | .v4 n => toBytes 16 (0xffff * 2 ^ 32 + n.val)
  | .v6 n _ => toBytes 16 n.val

/-- `netip.AddrFromSlice` -/
def addrFromSlice (ip : IP) : Option Addr :=
  if ip.length = 4 then
    if h : ofBytes ip < 2 ^ 32 then some (.v4 ⟨ofBytes ip, h⟩) else none
  else if ip.length = 16 then
    if h : ofBytes ip < 2 ^ 128 then some (.v6 ⟨ofBytes ip, h⟩ []) else none
  else none

/-- `net.ParseIP`: the 16-byte form, `nil` for a zone or a malformed text -/
def parseIP (s : Bytes) : IP :=
  match parseAddr s with
  | some a => if a.zone = [] then a.as16 else []
  | none => []

/-- `net.ParseIP(s) != nil` -/
def isIP (s : Bytes) : Bool := parseIP s != []

/-- `ip.To4()` -/
def to4 (ip : IP) : IP :=
  if ip.length = 4 then ip
  else if ip.length = 16 ∧ ip.take 12 = [0, 0, 0, 0, 0, 0, 0, 0, 0, 0, 0xff, 0xff] then ip.drop 12
  else []

/-- `ip.String()`: dotted decimal also for the mapped 16-byte form -/
def ipString (ip : IP) : Bytes :=
  if ip = [] then lit "<nil>"
  else if ip.length ≠ 4 ∧ ip.length ≠ 16 then
    lit "?" ++ ip.flatMap fun c => formatUint 16 (c.toNat / 16) ++ formatUint 16 (c.toNat % 16)
  else match addrFromSlice ip with
    | some a => a.unmap.text
    | none => []

end Go
