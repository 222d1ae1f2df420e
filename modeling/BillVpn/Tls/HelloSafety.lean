import BillVpn.Tls.ClientHello

/-!
# The parser on arbitrary bytes

The lengths in a record are the sender's.  Whatever they are, the parser stays inside the record, its
loop ends, and the name it reports is the first name of the first `server_name` extension.

* `vectorsEnd`          where the length fields of the three vectors lead;
* `FirstOfType`         the first extension of a type in a block, by the lengths of those before it;
* `extLoop_fixed`       the loop needs no more turns than the record has bytes;
* `extLoop_named`       what the loop keeps about the name it has found;
* `parseClientHello_sound`   **in range, ending, and with a name that is where it should be.**
-/

set_option linter.unusedVariables false

namespace Bill
open Go Res

/-! ## the layout -/

/-- behind `session_id`, `cipher_suites` and `compression_methods`, by their length fields -/
def vectorsEnd (data : Bytes) : Nat :=
  let suites := 44 + (data.getD 43 0).toNat
  let methods := suites + 2 + u16At data suites
  methods + 1 + (data.getD methods 0).toNat

/-- the block of extensions: its first byte, and the first byte behind it -/
def blockStart (data : Bytes) : Nat := vectorsEnd data + 2

def blockEnd (data : Bytes) : Nat := blockStart data + u16At data (vectorsEnd data)

/-- the end of the extension that starts at `offset` -/
def extEnd (data : Bytes) (offset : Nat) : Nat := offset + 4 + u16At data (offset + 2)

/-- walking from `offset` to `stop`, the first extension of the type starts at `ext` -/
inductive FirstOfType (data : Bytes) (stop typ : Nat) : Nat → Nat → Prop where
  | here {offset : Nat} (fits : extEnd data offset ≤ stop) (h : u16At data offset = typ) :
      FirstOfType data stop typ offset offset
  | later {offset ext : Nat} (fits : extEnd data offset ≤ stop) (h : u16At data offset ≠ typ)
      (next : FirstOfType data stop typ (extEnd data offset) ext) :
      FirstOfType data stop typ offset ext

/-- a `host_name` of `len` bytes at `pos`, in the body of the extension at `ext` -/
structure NameIn (data : Bytes) (ext pos len : Nat) : Prop where
  start : ext + 4 ≤ pos
  stop : pos + len ≤ extEnd data ext
  header : 5 ≤ pos
  length : u16At data (pos - 2) = len
  hostName : data[pos - 3]? = some 0

/-- the reported name, if there is one, is that of the first `server_name` extension of the block -/
def SoundName (data : Bytes) (h : Hello) : Prop :=
  h.sniPos = -1 ∨ ∃ ext pos : Nat, h.sniPos = pos ∧ pos + h.sniLen ≤ data.length ∧
    FirstOfType data (blockEnd data) extTypeSNI (blockStart data) ext ∧
    NameIn data ext pos h.sniLen

/-- one turn of the loop; `next` is the rest of it -/
def extTurn (data prtVer : Bytes) (extensionsEnd : Nat) (next : Nat → Int → Nat → Bool → Res Hello)
    (offset : Nat) (sniPos : Int) (sniLen : Nat) (hasKeyShare : Bool) : Res Hello :=
  if offset + 4 ≤ extensionsEnd then do
    let extType ← rd16 data offset
    let extLen ← rd16 data ↑(offset + 2)
    failIf (offset + 4 + extLen > extensionsEnd) "extension length exceeds extensions block"
    let keyShare := hasKeyShare || decide (extType = extTypeKeyShare)
    if extType = extTypeKeyShare ∧ sniPos ≠ -1 then .ok ⟨prtVer, sniPos, sniLen, keyShare⟩
    else if sniPos = -1 ∧ extType = extTypeSNI then do
      let name ← readSNI data (offset + 4) extLen
      if keyShare then .ok ⟨prtVer, name.1, name.2, keyShare⟩
      else next (offset + 4 + extLen) name.1 name.2 keyShare
    else next (offset + 4 + extLen) sniPos sniLen keyShare
  else .ok ⟨prtVer, sniPos, sniLen, hasKeyShare⟩

/-! ## the loop ends -/

section
variable {data prtVer : Bytes} {extensionsEnd : Nat}

theorem extLoop_succ (fuel offset : Nat) (sniPos : Int) (sniLen : Nat) (hasKeyShare : Bool) :
    extLoop data prtVer extensionsEnd (fuel + 1) offset sniPos sniLen hasKeyShare =
      extTurn data prtVer extensionsEnd (extLoop data prtVer extensionsEnd fuel) offset sniPos sniLen
        hasKeyShare := rfl

/-- **the loop needs no more turns than the record has bytes**: with that many it does what it does
with one more -/
theorem extLoop_fixed (hend : extensionsEnd ≤ data.length) (offset : Nat) (sniPos : Int)
    (sniLen : Nat) (hasKeyShare : Bool) :
    extLoop data prtVer extensionsEnd data.length offset sniPos sniLen hasKeyShare =
      extTurn data prtVer extensionsEnd (extLoop data prtVer extensionsEnd data.length) offset sniPos
        sniLen hasKeyShare := by
  rw [← extLoop_succ]
  exact (extLoop_fuel hend data.length offset sniPos sniLen hasKeyShare (by omega)).symm

/-! ## the name -/

/-- the name found so far: none, and the walk goes on to the first extension; or that of the first -/
def Walked (data : Bytes) (extensionsEnd start offset : Nat) (pos : Int) (len : Nat) : Prop :=
  (pos = -1 ∧ ∀ ext, FirstOfType data extensionsEnd extTypeSNI offset ext →
      FirstOfType data extensionsEnd extTypeSNI start ext) ∨
    ∃ ext p : Nat, pos = p ∧ p + len ≤ extensionsEnd ∧
      FirstOfType data extensionsEnd extTypeSNI start ext ∧ NameIn data ext p len

theorem readSNI_named {offset : Nat} {name : Nat × Nat} (hfits : extEnd data offset ≤ data.length)
    (h : readSNI data (offset + 4) (u16At data (offset + 2)) = .ok name) :
    NameIn data offset name.1 name.2 := by
  obtain ⟨hpos, hstop, hzero, hlen⟩ := readSNI_ok h
  unfold extEnd at hfits
  rw [rd16_nat (by omega)] at hlen
  refine ⟨by omega, hstop, by omega, ?_, ?_⟩
  · rw [← ok.inj hlen, hpos]
    rfl
  · rw [hpos]
    exact hzero

theorem extLoop_named (hend : extensionsEnd ≤ data.length) {h : Hello} (fuel start : Nat)
    (hrun : extLoop data prtVer extensionsEnd fuel start (-1) 0 false = .ok h) :
    ∃ last, Walked data extensionsEnd start last h.sniPos h.sniLen := by
  refine (extLoop_invariant (I := Walked data extensionsEnd start) hend ?_ ?_ fuel start (-1) 0 false
    (.inl ⟨rfl, fun ext hext => hext⟩) hrun).2
  · intro offset pos len hfits hno hI
    rcases hI with ⟨hpos, hwalk⟩ | hfound
    · refine .inl ⟨hpos, fun ext hext => hwalk ext (.later hfits (fun htyp => hno ⟨hpos, htyp⟩) hext)⟩
    · exact .inr hfound
  · intro offset len name hfits htyp hname hI
    rcases hI with ⟨-, hwalk⟩ | ⟨ext, p, hp, -⟩
    · have hname' := readSNI_named (Nat.le_trans hfits hend) hname
      exact .inr ⟨offset, name.1, rfl, Nat.le_trans hname'.stop hfits, hwalk offset (.here hfits htyp),
        hname'⟩
    · omega

end

/-! ## the parser -/

theorem getD_of_idx {data : Bytes} {n : Nat} {b : UInt8} (h : idx data (n : Int) = .ok b) :
    data.getD n 0 = b := by
  have hget := (idx_eq_ok.mp h).2
  rw [Int.toNat_natCast] at hget
  rw [List.getD_eq_getElem?_getD, hget]
  rfl

theorem skipVectors_end {data : Bytes} {offset : Nat} (h : skipVectors data = .ok offset) :
    offset = vectorsEnd data := by
  obtain ⟨sid, cm, cs, hsid, hcs, hcm, rfl, hle⟩ := skipVectors_ok h
  have h1 : data.getD 43 0 = sid := getD_of_idx (n := 43) hsid
  rw [rd16_nat (by omega)] at hcs
  have h2 := ok.inj hcs
  have h3 := getD_of_idx hcm
  unfold vectorsEnd
  dsimp only
  rw [h1, h2, h3]

/-- what is asked of the parser; `ends` says that the bound on the turns of the loop is never met -/
structure SafeAndSound (data : Bytes) : Prop where
  inRange : parseClientHello data ≠ .panic
  ends : ∀ prtVer extensionsEnd, extensionsEnd ≤ data.length →
    ∀ offset sniPos sniLen hasKeyShare,
      extLoop data prtVer extensionsEnd data.length offset sniPos sniLen hasKeyShare =
        extTurn data prtVer extensionsEnd (extLoop data prtVer extensionsEnd data.length) offset sniPos
          sniLen hasKeyShare
  sound : ∀ h, parseClientHello data = .ok h → SoundName data h

theorem parseClientHello_named {data : Bytes} {h : Hello} (hp : parseClientHello data = .ok h) :
    SoundName data h := by
  unfold parseClientHello at hp
  obtain ⟨v, -, hp⟩ := bind_eq_ok.mp hp
  obtain ⟨offset, hoff, hp⟩ := bind_eq_ok.mp hp
  have hle := (skipVectors_bounds hoff).2
  obtain rfl := skipVectors_end hoff
  by_cases hnone : vectorsEnd data + 2 > data.length
  · rw [if_pos hnone] at hp
    cases hp
    exact .inl rfl
  · rw [if_neg hnone, rd16_nat (by omega), bind_ok, bind_eq_ok] at hp
    obtain ⟨_, hfits, hp⟩ := hp
    rw [failIf_eq_ok, not_lt] at hfits
    have hend : blockEnd data ≤ data.length := hfits
    obtain ⟨last, hwalked⟩ := extLoop_named hend _ _ hp
    rcases hwalked with ⟨hpos, -⟩ | ⟨ext, pos, hpos, hin, hfirst, hname⟩
    · exact .inl hpos
    · exact .inr ⟨ext, pos, hpos, Nat.le_trans hin hend, hfirst, hname⟩

/-- **On any record header the parser stays in range and ends, and the name it reports is the first
name of the first `server_name` extension.** -/
theorem parseClientHello_sound (data : Bytes) (hlen : 5 ≤ data.length) : SafeAndSound data where
  inRange := fun hp => absurd ((parseClientHello_panics data).mp hp) (by omega)
  ends := fun prtVer extensionsEnd hend => extLoop_fixed hend
  sound := fun h hp => parseClientHello_named hp

theorem parseClientHello_sound_sample : SafeAndSound sampleHello :=
  parseClientHello_sound sampleHello (by decide)

end Bill
