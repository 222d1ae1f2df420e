import BillVpn.Config.Load
import BillVpn.Go.Regexp

/-!
# The embedded list

`gfwlist.txt` is a base64 text with one rule on a line: a rule after `@@` is an exception, a line
that starts with `!` or `[` is a comment.  Out of each rule the parser extracts a host name, by
trimming, as a URL, as host and port and last by a regular expression, and the host `h` becomes the
pattern `*h` of a domain matcher.

* `extractGFWListHost`, `normalizeGFWListRule`, `parseEmbeddedGFWList`   the parser;
* `Dotted`                       a name that a matcher takes as it is meant;
* `extractGFWListHost_dotted`    **every host that is extracted is such a name**;
* `mem_parsed`                   the patterns of the list are those of its lines;
* `parse_congr`                  neither the order of the lines nor a repetition matters.
-/

set_option linter.unusedVariables false

namespace Bill
open Go

/-! ## the library -/

/-- what the parser calls of the standard library, besides `Std` -/
structure ListLib where
  /-- `strings.Map`; a rune that is mapped to nothing is left out -/
  mapRunes : (Char → Option Char) → Bytes → Bytes
  /-- `base64.StdEncoding.DecodeString` -/
  decodeString : Bytes → Except String Bytes
  /-- `url.Parse`, and the field `Host` -/
  parseURL : Bytes → Except String Bytes

/-- `unicode.IsSpace` -/
def isSpace (r : Char) : Bool :=
  let n := r.toNat
  (9 ≤ n && n ≤ 13) || n == 0x20 || n == 0x85 || n == 0xa0 || n == 0x1680 ||
    (0x2000 ≤ n && n ≤ 0x200a) || n == 0x2028 || n == 0x2029 || n == 0x202f || n == 0x205f ||
    n == 0x3000

/-! ## the hosts of the rules -/

/-- `[a-z0-9]` -/
def isAlnum (c : UInt8) : Bool := (97 ≤ c && c ≤ 122) || (48 ≤ c && c ≤ 57)

/-- `[a-z0-9](?:[a-z0-9-]{0,61}[a-z0-9])?` -/
def gfwLabelRegexp : Regexp :=
  .seq (.char isAlnum)
    (.opt (.seq (.upTo 61 (.char fun c => isAlnum c || c == 45)) (.char isAlnum)))

/-- a label, then one or more labels each after a dot -/
def gfwHostRegexp : Regexp :=
  .seq gfwLabelRegexp (.plus (.seq (.char (· == dot)) gfwLabelRegexp))

section
variable (lib : ListLib) (std : Std)

/-- the text that the regular expression is tried on -/
def hostText (rule : Bytes) : Bytes :=
  let rule :=
    if lit "://" <:+: rule then
      match lib.parseURL rule with
      | .ok host => if host = [] then rule else host
      | .error _ => rule
    else rule
  let rule := trim (lit "*./") rule
  let rule := match splitHostPort rule with
    | some (host, _) => host
    | none => rule
  std.toLower rule

def extractGFWListHost (rule : Bytes) : Option Bytes :=
  let rule := std.trimSpace rule
  if rule = [] then none
  else
    let rule := trimLeft (lit "|.") (cutAtAny (lit "^$") rule)
    if rule = [] then none
    else
      let found := gfwHostRegexp.findString (hostText lib std rule)
      if found = [] ∨ isIP found then none else some (trim (lit ".") found)

def normalizeGFWListRule (rule : Bytes) : Option Bytes :=
  let rule := std.trimSpace rule
  if rule = [] ∨ lit "/" <+: rule ∨ lit "||^" <+: rule then none
  else (extractGFWListHost lib std rule).map (star ++ ·)

/-! ## the lists -/

/-- a key of a map with empty values -/
def addKey (m : List Bytes) (key : Bytes) : List Bytes := if key ∈ m then m else m ++ [key]

/-- the keys are different, so every sort gives the same -/
def mapKeysSorted (m : List Bytes) : List Bytes := m.insertionSort (· ≤ ·)

/-- the rule of a line, and whether it is an exception -/
def lineRule (line : Bytes) : Option (Bool × Bytes) :=
  let line := std.trimSpace line
  if line = [] ∨ lit "!" <+: line ∨ lit "[" <+: line then none
  else if lit "@@" <+: line then some (true, line.drop 2) else some (false, line)

/-- the pattern of a line, and whether it is an exception -/
def linePattern (line : Bytes) : Option (Bool × Bytes) :=
  match lineRule std line with
  | none => none
  | some (bypass, rule) => (normalizeGFWListRule lib std rule).map fun p => (bypass, p)

/-- one turn of the loop: the sets of the blocked patterns and of the exceptions -/
def addLine (sets : List Bytes × List Bytes) (line : Bytes) : List Bytes × List Bytes :=
  match linePattern lib std line with
  | none => sets
  | some (true, p) => (sets.1, addKey sets.2 p)
  | some (false, p) => (addKey sets.1 p, sets.2)

def decodeList (raw : Bytes) : Except String Bytes :=
  lib.decodeString (lib.mapRunes (fun r => if isSpace r then none else some r) raw)

def listLines (decoded : Bytes) : List Bytes := decoded.splitOn 10

def parseEmbeddedGFWList (raw : Bytes) : Res (List Bytes × List Bytes) :=
  match decodeList lib raw with
  | .error e => .err ("decode embedded gfwlist: " ++ e)
  | .ok decoded =>
    let sets := (listLines decoded).foldl (addLine lib std) ([], [])
    .ok (mapKeysSorted sets.1, mapKeysSorted sets.2)

end

/-! ## a host is a dotted name -/

/-- a name with a dot, and not at its front -/
structure Dotted (h : Bytes) : Prop where
  inside : dot ∈ h
  front : ∀ c ∈ h.head?, c ≠ dot

theorem isAlnum_ne_dot {c : UInt8} (h : isAlnum c = true) : c ≠ dot := by
  intro hc
  subst hc
  cases h

theorem gfwLabel_ends {w : Bytes} (h : gfwLabelRegexp.Lang w) :
    ∃ c t, w = c :: t ∧ c ≠ dot ∧ ∀ d ∈ w.getLast?, d ≠ dot := by
  obtain ⟨u, v, ⟨c, hc, rfl⟩, hv, rfl⟩ := h
  refine ⟨c, v, rfl, isAlnum_ne_dot hc, ?_⟩
  rcases hv with rfl | ⟨x, y, -, ⟨d, hd, rfl⟩, rfl⟩
  · intro d hd
    cases hd
    exact isAlnum_ne_dot hc
  · intro e he
    rw [List.getLast?_append_of_ne_nil _ (by simp)] at he
    rw [List.getLast?_append_of_ne_nil _ (by simp)] at he
    cases he
    exact isAlnum_ne_dot hd

/-- a host starts and ends with a letter or a digit, and has a dot -/
theorem gfwHost_ends {w : Bytes} (h : gfwHostRegexp.Lang w) :
    Dotted w ∧ ∀ d ∈ w.getLast?, d ≠ dot := by
  obtain ⟨u, v, hu, ⟨ws, hne, hws, rfl⟩, rfl⟩ := h
  obtain ⟨c, t, rfl, hc, -⟩ := gfwLabel_ends hu
  obtain ⟨init, last, rfl⟩ := (List.eq_nil_or_concat' ws).resolve_left hne
  obtain ⟨x, y, ⟨d, hd, rfl⟩, hy, rfl⟩ := hws last (List.mem_append_right _ List.mem_cons_self)
  rw [beq_iff_eq] at hd
  subst hd
  obtain ⟨e, r, rfl, -, hlast⟩ := gfwLabel_ends hy
  rw [List.flatten_append, List.flatten_singleton]
  refine ⟨⟨?_, ?_⟩, ?_⟩
  · simp
  · intro b hb
    cases hb
    exact hc
  · intro b hb
    rw [List.getLast?_append_of_ne_nil _ (by simp), List.getLast?_append_of_ne_nil _ (by simp),
      List.getLast?_append_of_ne_nil _ (by simp)] at hb
    exact hlast b hb

section
variable {lib : ListLib} {std : Std}

/-- **Every host that is extracted is a dotted name.** -/
theorem extractGFWListHost_dotted {rule h : Bytes} (hx : extractGFWListHost lib std rule = some h) :
    Dotted h := by
  unfold extractGFWListHost at hx
  dsimp only at hx
  split_ifs at hx with h1 h2 h3
  rw [not_or] at h3
  obtain ⟨hdotted, hlast⟩ := gfwHost_ends (gfwHostRegexp.findString_lang _ h3.1)
  have hcut : ∀ c : UInt8, c ≠ dot → c ∉ lit "." := fun c hc hmem =>
    hc (List.mem_singleton.mp hmem)
  rw [trim_of_ends (fun c hc => hcut c (hdotted.front c hc)) fun c hc => hcut c (hlast c hc)] at hx
  cases hx
  exact hdotted

/-- the host of a rule that is kept -/
def keptHost (lib : ListLib) (std : Std) (rule : Bytes) : Option Bytes :=
  let rule := std.trimSpace rule
  if rule = [] ∨ lit "/" <+: rule ∨ lit "||^" <+: rule then none
  else extractGFWListHost lib std rule

theorem normalize_eq (rule : Bytes) :
    normalizeGFWListRule lib std rule = (keptHost lib std rule).map (star ++ ·) := by
  unfold normalizeGFWListRule keptHost
  dsimp only
  split_ifs <;> rfl

theorem keptHost_dotted {rule h : Bytes} (hk : keptHost lib std rule = some h) : Dotted h := by
  unfold keptHost at hk
  dsimp only at hk
  split_ifs at hk
  exact extractGFWListHost_dotted hk

/-! ## the sets are those of the lines -/

theorem mem_addKey {m : List Bytes} {key p : Bytes} : p ∈ addKey m key ↔ p ∈ m ∨ p = key := by
  unfold addKey
  split_ifs with h
  · constructor
    · exact .inl
    · rintro (hp | rfl)
      · exact hp
      · exact h
  · rw [List.mem_append, List.mem_singleton]

theorem nodup_addKey {m : List Bytes} {key : Bytes} (h : m.Nodup) : (addKey m key).Nodup := by
  unfold addKey
  split_ifs with hk
  · exact h
  · exact List.nodup_append.mpr ⟨h, List.nodup_singleton _, fun a ha b hb hab =>
      hk ((hab.trans (List.mem_singleton.mp hb)) ▸ ha)⟩

/-- the set that a line goes to -/
def side (bypass : Bool) (sets : List Bytes × List Bytes) : List Bytes :=
  if bypass then sets.2 else sets.1

theorem mem_addLine {sets : List Bytes × List Bytes} {line p : Bytes} {bypass : Bool} :
    p ∈ side bypass (addLine lib std sets line) ↔
      p ∈ side bypass sets ∨ linePattern lib std line = some (bypass, p) := by
  unfold addLine
  cases hl : linePattern lib std line with
  | none => simp
  | some r =>
    obtain ⟨b, q⟩ := r
    cases b <;> cases bypass <;> simp [side, mem_addKey, eq_comm]

theorem nodup_addLine {sets : List Bytes × List Bytes} {line : Bytes}
    (h : sets.1.Nodup ∧ sets.2.Nodup) :
    (addLine lib std sets line).1.Nodup ∧ (addLine lib std sets line).2.Nodup := by
  unfold addLine
  split
  · exact h
  · exact ⟨h.1, nodup_addKey h.2⟩
  · exact ⟨nodup_addKey h.1, h.2⟩

theorem mem_addLines {lines : List Bytes} {p : Bytes} {bypass : Bool} :
    ∀ {sets : List Bytes × List Bytes}, p ∈ side bypass (lines.foldl (addLine lib std) sets) ↔
      p ∈ side bypass sets ∨ ∃ line ∈ lines, linePattern lib std line = some (bypass, p) := by
  induction lines with
  | nil => simp
  | cons line lines ih =>
    intro sets
    rw [List.foldl_cons, ih, mem_addLine, or_assoc]
    simp

theorem nodup_addLines {lines : List Bytes} : ∀ {sets : List Bytes × List Bytes},
    sets.1.Nodup ∧ sets.2.Nodup → (lines.foldl (addLine lib std) sets).1.Nodup ∧
      (lines.foldl (addLine lib std) sets).2.Nodup := by
  induction lines with
  | nil => exact fun h => h
  | cons line lines ih => exact fun h => ih (nodup_addLine h)

/-- **The patterns of a list are those of its lines.** -/
theorem mem_parsed {raw decoded p : Bytes} {bypass : Bool} {sets : List Bytes × List Bytes}
    (hd : decodeList lib raw = .ok decoded) (hs : parseEmbeddedGFWList lib std raw = .ok sets) :
    p ∈ side bypass sets ↔
      ∃ line ∈ listLines decoded, linePattern lib std line = some (bypass, p) := by
  have h : p ∈ side bypass ((listLines decoded).foldl (addLine lib std) ([], [])) ↔ _ :=
    mem_addLines
  unfold parseEmbeddedGFWList at hs
  rw [hd] at hs
  cases hs
  cases bypass <;> simpa [side, mapKeysSorted] using h

theorem mapKeysSorted_congr {m m' : List Bytes} (hm : m.Nodup) (hm' : m'.Nodup)
    (h : ∀ p, p ∈ m ↔ p ∈ m') : mapKeysSorted m = mapKeysSorted m' := by
  have hperm : m.Perm m' := (List.perm_ext_iff_of_nodup hm hm').mpr h
  unfold mapKeysSorted
  exact List.Perm.eq_of_pairwise (fun a b _ _ hab hba => List.le_antisymm hab hba)
    (List.pairwise_insertionSort _ m) (List.pairwise_insertionSort _ m')
    ((List.perm_insertionSort _ m).trans (hperm.trans (List.perm_insertionSort _ m').symm))

/-- **Neither the order of the lines nor a repetition matters.** -/
theorem parse_congr {raw raw' decoded decoded' : Bytes} (hd : decodeList lib raw = .ok decoded)
    (hd' : decodeList lib raw' = .ok decoded')
    (h : ∀ line, line ∈ listLines decoded ↔ line ∈ listLines decoded') :
    parseEmbeddedGFWList lib std raw = parseEmbeddedGFWList lib std raw' := by
  have hnodup : ∀ lines : List Bytes, (lines.foldl (addLine lib std) ([], [])).1.Nodup ∧
      (lines.foldl (addLine lib std) ([], [])).2.Nodup := fun lines =>
    nodup_addLines ⟨List.nodup_nil, List.nodup_nil⟩
  have hside : ∀ (bypass : Bool) (p : Bytes),
      p ∈ side bypass ((listLines decoded).foldl (addLine lib std) ([], [])) ↔
        p ∈ side bypass ((listLines decoded').foldl (addLine lib std) ([], [])) := by
    intro bypass p
    rw [mem_addLines, mem_addLines]
    simp only [h]
  unfold parseEmbeddedGFWList
  rw [hd, hd']
  dsimp only
  rw [mapKeysSorted_congr (hnodup _).1 (hnodup _).1 (hside false),
    mapKeysSorted_congr (hnodup _).2 (hnodup _).2 (hside true)]

end

end Bill
