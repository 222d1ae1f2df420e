import BillVpn.Go.Utf8
import BillVpn.Config.Pattern

/-!
# The texts a pattern stands for

A pattern is read here as its author writes it: LITERAL pieces, without `(`, `)` and `|`, and
GROUPS `(a|b|…)` of literal alternatives, in any number and order.  It stands for the texts got
by taking one alternative of each group.  `expandPattern`, a recursion on what follows the first
group with its own search for brackets and bars, lists exactly these, the leftmost group varying
slowest.

* `Literal`, `Piece`, `render`   the patterns and their texts;
* `language`                     the texts a pattern stands for, in order;
* `splitByPipe_runes`            the loop of the source over runes is the cut at the bars;
* `expandPattern_lists`          the main result.
-/

set_option linter.unusedVariables false

namespace Bill
open Go

/-! ## the loops of the source over runes -/

/-- the loop of `splitByPipe`: what it has cut off, the part it is in, the runes to come -/
def pipeLoop (result : List Bytes) (curr : Bytes) : List Char → List Bytes
  | [] => result ++ [curr]
  | ch :: rest =>
    if ch = '|' then pipeLoop (result ++ [curr]) [] rest
    else pipeLoop result (curr ++ String.utf8EncodeChar ch) rest

theorem pipeLoop_eq (result : List Bytes) (curr : Bytes) (cs : List Char) (hcurr : pipe ∉ curr) :
    pipeLoop result curr cs = result ++ (curr ++ encode cs).splitOn pipe := by
  induction cs generalizing result curr with
  | nil =>
    show result ++ [curr] = result ++ (curr ++ []).splitOn pipe
    rw [List.append_nil, List.splitOn_eq_singleton hcurr]
  | cons ch rest ih =>
    unfold pipeLoop
    split_ifs with hbar
    · subst hbar
      have hcut : (curr ++ encode ('|' :: rest)).splitOn pipe
          = curr :: (encode rest).splitOn pipe :=
        List.splitOn_append_cons_self_of_not_mem hcurr (encode rest)
      rw [ih _ _ List.not_mem_nil, hcut, List.append_assoc, List.nil_append]
      rfl
    · have hch : pipe ∉ String.utf8EncodeChar ch := fun h =>
        hbar ((byteOf_mem_utf8EncodeChar (a := '|') (by decide)).mp h).symm
      rw [ih _ _ (List.not_mem_append hcurr hch), encode_cons, List.append_assoc]

/-- **The loop over runes cuts at the bars.** -/
theorem splitByPipe_runes (s : String) : pipeLoop [] [] s.toList = splitByPipe (lit s) := by
  rw [pipeLoop_eq _ _ _ List.not_mem_nil, lit_eq_encode]
  rfl

/-- the loop of `expandPattern` for `left`: the byte offset of the first `(`, if there is one -/
def leftLoop (i : Nat) : List Char → Option Nat
  | [] => none
  | ch :: rest =>
    if ch = '(' then some i else leftLoop (i + (String.utf8EncodeChar ch).length) rest

/-- the loop stops at the first byte `(`, where `firstGroup` cuts the text -/
theorem leftLoop_eq (i : Nat) (cs : List Char) :
    leftLoop i cs = if lparen ∈ encode cs
      then some (i + ((encode cs).takeWhile (· ≠ lparen)).length) else none := by
  induction cs generalizing i with
  | nil => rfl
  | cons ch rest ih =>
    unfold leftLoop
    split_ifs with hch hmem hmem
    · subst hch
      rfl
    · exact absurd ((mem_encode (a := '(') (by decide) _).mpr (hch ▸ List.mem_cons_self)) hmem
    · have hnot : lparen ∉ String.utf8EncodeChar ch := fun h =>
        hch ((byteOf_mem_utf8EncodeChar (a := '(') (by decide)).mp h).symm
      rw [encode_cons, List.mem_append] at hmem
      have hall : ∀ b ∈ String.utf8EncodeChar ch, decide (b ≠ lparen) = true := fun b hb =>
        decide_eq_true fun h => hnot (h ▸ hb)
      rw [ih, if_pos (hmem.resolve_left hnot), encode_cons, List.takeWhile_append_of_pos hall,
        List.length_append, Nat.add_assoc]
    · rw [ih, if_neg fun h => hmem (by rw [encode_cons]; exact List.mem_append_right _ h)]

/-! ## patterns -/

/-- a text without `(`, `)` and `|` -/
structure Literal where
  text : String
  plain : ∀ c ∈ text.toList, c ≠ '(' ∧ c ≠ ')' ∧ c ≠ '|'

namespace Literal

def empty : Literal := ⟨"", fun c hc => nomatch hc⟩

def ofChar (c : Char) (hc : c ≠ '(' ∧ c ≠ ')' ∧ c ≠ '|') : Literal where
  text := String.singleton c
  plain := by
    intro d hd
    rw [String.toList_singleton, List.mem_singleton] at hd
    rw [hd]
    exact hc

def append (a b : Literal) : Literal where
  text := a.text ++ b.text
  plain := by
    intro c hc
    rw [String.toList_append, List.mem_append] at hc
    exact hc.elim (a.plain c) (b.plain c)

theorem no_lparen (l : Literal) : lparen ∉ lit l.text := fun h =>
  (l.plain _ ((mem_lit (a := '(') (by decide) _).mp h)).1 rfl

theorem no_rparen (l : Literal) : rparen ∉ lit l.text := fun h =>
  (l.plain _ ((mem_lit (a := ')') (by decide) _).mp h)).2.1 rfl

theorem no_pipe (l : Literal) : pipe ∉ lit l.text := fun h =>
  (l.plain _ ((mem_lit (a := '|') (by decide) _).mp h)).2.2 rfl

end Literal

/-- a piece of a pattern: a literal, or a group with at least one alternative -/
inductive Piece where
  | literal (l : Literal)
  | group (first : Literal) (more : List Literal)

/-- the alternatives of a group, with a bar between two -/
def bars : Literal → List Literal → String
  | first, [] => first.text
  | first, next :: more => first.text ++ "|" ++ bars next more

def Piece.render : Piece → String
  | .literal l => l.text
  | .group first more => "(" ++ bars first more ++ ")"

/-- what one piece may stand for -/
def Piece.choices : Piece → List String
  | .literal l => [l.text]
  | .group first more => (first :: more).map Literal.text

/-- the number of alternatives of a piece: a literal has one -/
def Piece.size : Piece → Nat
  | .literal _ => 1
  | .group _ more => more.length + 1

/-- the text of a pattern -/
def render : List Piece → String
  | [] => ""
  | p :: ps => p.render ++ render ps

/-- the texts a pattern stands for: all that start with the first choice of the first piece, then
all that start with the second, and so on -/
def language : List Piece → List String
  | [] => [""]
  | p :: ps => p.choices.flatMap fun a => (language ps).map fun rest => a ++ rest

/-- a text got by taking one choice of each piece -/
inductive Chosen : List Piece → String → Prop
  | nil : Chosen [] ""
  | cons {p : Piece} {ps : List Piece} {a rest : String} :
      a ∈ p.choices → Chosen ps rest → Chosen (p :: ps) (a ++ rest)

theorem mem_language (ps : List Piece) (s : String) : s ∈ language ps ↔ Chosen ps s := by
  constructor
  · intro h
    induction ps generalizing s with
    | nil =>
      rw [List.mem_singleton.mp h]
      exact .nil
    | cons p ps ih =>
      obtain ⟨a, ha, hs⟩ := List.mem_flatMap.mp h
      obtain ⟨rest, hrest, rfl⟩ := List.mem_map.mp hs
      exact .cons ha (ih rest hrest)
  · intro h
    induction h with
    | nil => exact List.mem_singleton_self _
    | cons ha _ ih => exact List.mem_flatMap.mpr ⟨_, ha, List.mem_map.mpr ⟨_, ih, rfl⟩⟩

theorem Piece.length_choices (p : Piece) : p.choices.length = p.size := by
  cases p with
  | literal l => rfl
  | group first more => exact List.length_map _

theorem length_language (ps : List Piece) : (language ps).length = (ps.map Piece.size).prod := by
  induction ps with
  | nil => rfl
  | cons p ps ih =>
    show (p.choices.flatMap fun a => (language ps).map fun rest => a ++ rest).length = _
    rw [List.length_flatMap]
    simp only [List.length_map, List.map_const', List.sum_replicate, smul_eq_mul]
    rw [p.length_choices, ih, List.map_cons, List.prod_cons]

/-! ## the first group of a text -/

theorem closeGroup_plain {inner : Bytes} (hl : lparen ∉ inner) (hr : rparen ∉ inner)
    (rest : Bytes) : closeGroup 1 (inner ++ rparen :: rest) = some (inner, rest) := by
  induction inner with
  | nil => rfl
  | cons c inner ih =>
    rw [List.mem_cons, not_or] at hl hr
    rw [List.cons_append, closeGroup, if_neg (Ne.symm hl.1), if_neg (Ne.symm hr.1),
      ih hl.2 hr.2]
    rfl

theorem dropWhile_lparen {before : Bytes} (hb : lparen ∉ before) (rest : Bytes) :
    (before ++ rest).dropWhile (· ≠ lparen) = rest.dropWhile (· ≠ lparen) :=
  List.dropWhile_append_of_pos fun b hbm => decide_eq_true fun h => hb (h ▸ hbm)

theorem firstGroup_none {s : Bytes} (hs : lparen ∉ s) : firstGroup s = none := by
  have hdrop : s.dropWhile (· ≠ lparen) = [] := by
    have h := dropWhile_lparen hs []
    rwa [List.append_nil] at h
  unfold firstGroup
  rw [hdrop]

theorem firstGroup_plain {before inner : Bytes} (hb : lparen ∉ before) (hl : lparen ∉ inner)
    (hr : rparen ∉ inner) (rest : Bytes) :
    firstGroup (before ++ lparen :: (inner ++ rparen :: rest)) = some (before, inner, rest) := by
  have hne : ∀ b ∈ before, decide (b ≠ lparen) = true := fun b hbm =>
    decide_eq_true fun h => hb (h ▸ hbm)
  have htake : (before ++ lparen :: (inner ++ rparen :: rest)).takeWhile (· ≠ lparen) = before := by
    rw [List.takeWhile_append_of_pos hne]
    exact List.append_nil before
  unfold firstGroup
  rw [dropWhile_lparen hb, htake]
  show (closeGroup 1 (inner ++ rparen :: rest)).map _ = _
  rw [closeGroup_plain hl hr]
  rfl

/-! ## the bars of a group -/

theorem mem_bars {x : UInt8} (hx : x ≠ pipe) (hplain : ∀ l : Literal, x ∉ lit l.text)
    (first : Literal) (more : List Literal) : x ∉ lit (bars first more) := by
  induction more generalizing first with
  | nil => exact hplain first
  | cons next more ih =>
    show x ∉ lit (first.text ++ "|" ++ bars next more)
    rw [lit_append, lit_append]
    refine List.not_mem_append (List.not_mem_append (hplain first) ?_) (ih next)
    exact fun h => hx (List.mem_singleton.mp h)

theorem splitByPipe_bars (first : Literal) (more : List Literal) :
    splitByPipe (lit (bars first more)) = (first :: more).map fun l => lit l.text := by
  induction more generalizing first with
  | nil => exact List.splitOn_eq_singleton first.no_pipe
  | cons next more ih =>
    have htext : lit (bars first (next :: more)) = lit first.text ++ pipe :: lit (bars next more) := by
      show lit (first.text ++ "|" ++ bars next more) = _
      rw [lit_append, lit_append, List.append_assoc]
      rfl
    unfold splitByPipe at ih ⊢
    rw [htext, List.splitOn_append_cons_self_of_not_mem first.no_pipe, ih]
    rfl

/-! ## the expansion -/

/-- the recursion of the source, with the literals before the next group in `before` -/
theorem expandPattern_render (before : Literal) (ps : List Piece) :
    expandPattern (lit (before.text ++ render ps))
      = (language ps).map fun s => lit (before.text ++ s) := by
  induction ps generalizing before with
  | nil =>
    have hbefore : before.text ++ render [] = before.text := String.append_empty
    rw [hbefore, expandPattern_eq, firstGroup_none before.no_lparen]
    show splitByPipe (lit before.text) = [lit (before.text ++ "")]
    rw [String.append_empty]
    exact List.splitOn_eq_singleton before.no_pipe
  | cons p ps ih =>
    cases p with
    | literal l =>
      have h := ih (before.append l)
      have htext : before.text ++ render (.literal l :: ps) = (before.append l).text ++ render ps :=
        String.append_assoc.symm
      rw [htext, h]
      show _ = ([l.text].flatMap fun a => (language ps).map fun rest => a ++ rest).map _
      rw [List.flatMap_singleton, List.map_map]
      refine List.map_congr_left fun s _ => ?_
      show lit (before.text ++ l.text ++ s) = lit (before.text ++ (l.text ++ s))
      rw [String.append_assoc]
    | group first more =>
      have htext : lit (before.text ++ render (.group first more :: ps))
          = lit before.text ++ lparen :: (lit (bars first more) ++ rparen :: lit (render ps)) := by
        show lit (before.text ++ ("(" ++ bars first more ++ ")" ++ render ps)) = _
        simp only [lit_append, List.append_assoc]
        rfl
      have hrest : expandPattern (lit (render ps)) = (language ps).map lit := by
        have h := ih .empty
        simpa only [Literal.empty, String.empty_append] using h
      rw [htext, expandPattern_eq, firstGroup_plain before.no_lparen
        (mem_bars (by decide) Literal.no_lparen first more)
        (mem_bars (by decide) Literal.no_rparen first more)]
      show (splitByPipe (lit (bars first more))).flatMap (fun part =>
          (expandPattern (lit (render ps))).map fun suff => lit before.text ++ part ++ suff)
        = (((first :: more).map Literal.text).flatMap fun a =>
            (language ps).map fun rest => a ++ rest).map fun s => lit (before.text ++ s)
      rw [splitByPipe_bars, hrest, List.map_flatMap, List.flatMap_map, List.flatMap_map]
      refine List.flatMap_congr fun l _ => ?_
      rw [List.map_map, List.map_map]
      refine List.map_congr_left fun s _ => ?_
      show lit before.text ++ lit l.text ++ lit s = lit (before.text ++ (l.text ++ s))
      rw [lit_append, lit_append, List.append_assoc]

theorem expandPattern_flat (s : String) (hs : '(' ∉ s.toList) :
    expandPattern (lit s) = (s.toList.splitOn '|').map fun a => lit (String.ofList a) := by
  have hparen : lparen ∉ lit s := fun h => hs ((mem_lit (a := '(') (by decide) s).mp h)
  have hcut : (encode s.toList).splitOn pipe = (s.toList.splitOn '|').map encode :=
    encode_splitOn (a := '|') (by decide) s.toList
  rw [expandPattern_eq, firstGroup_none hparen]
  show (lit s).splitOn pipe = _
  rw [lit_eq_encode, hcut]
  exact List.map_congr_left fun a _ => (lit_ofList a).symm

/-- the expansion of a pattern lists its language; `ends` gives the depth of the recursion that is
enough -/
structure ListsLanguage (ps : List Piece) : Prop where
  lists : expandPattern (lit (render ps)) = (language ps).map lit
  ends : ∀ n, (lit (render ps)).length < n → expandFuel n (lit (render ps)) = (language ps).map lit
  chosen : ∀ s, s ∈ language ps ↔ Chosen ps s
  size : (expandPattern (lit (render ps))).length = (ps.map Piece.size).prod

/-- **`expandPattern` lists the language of a pattern**, for all pieces in any number and order; a
text without brackets is cut at its bars. -/
theorem expandPattern_lists :
    (∀ ps : List Piece, ListsLanguage ps) ∧
    ∀ s : String, '(' ∉ s.toList → ')' ∉ s.toList →
      expandPattern (lit s) = (s.toList.splitOn '|').map fun a => lit (String.ofList a) := by
  refine ⟨fun ps => ?_, fun s hs _ => expandPattern_flat s hs⟩
  have hlists : expandPattern (lit (render ps)) = (language ps).map lit := by
    have h := expandPattern_render .empty ps
    simpa only [Literal.empty, String.empty_append] using h
  refine ⟨hlists, fun n hn => ?_, mem_language ps, ?_⟩
  · rw [← hlists]
    exact expandFuel_eq hn (Nat.lt_succ_self _)
  · rw [hlists, List.length_map, length_language]

/-- `é(b|)(c|d)`: an empty alternative and a character beyond ASCII -/
def samplePattern : List Piece :=
  [.literal (.ofChar 'é' (by decide)), .group (.ofChar 'b' (by decide)) [.empty],
   .group (.ofChar 'c' (by decide)) [.ofChar 'd' (by decide)]]

theorem expandPattern_lists_sample :
    ListsLanguage samplePattern ∧ language samplePattern = ["ébc", "ébd", "éc", "éd"] ∧
    expandPattern (lit "a||b") = [lit "a", [], lit "b"] :=
  ⟨expandPattern_lists.1 samplePattern, by decide +kernel,
    (expandPattern_lists.2 "a||b" (by decide +kernel) (by decide +kernel)).trans
      (by decide +kernel)⟩

end Bill
