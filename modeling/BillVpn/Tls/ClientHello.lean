import BillVpn.Go.Basic

/-!
# The ClientHello parser

`parseClientHello` reads one TLS record and returns the position and the length of the server
name, and whether the hello carries a `key_share` extension.  The position is an `int` with the
sentinel `-1` for "no server name".

* `parseClientHello_spec`      what an accepted record looks like: it has at least 47 bytes, and
                               the name is absent or lies inside the record, past byte 58;
* `parseClientHello_panics`    the parser itself only needs the five bytes of a record header;
* `extLoop_invariant`          the rule for what the turns of its loop keep;
* `extLoop_fuel`               the loop over the extensions always has fuel left.
-/

set_option linter.unusedVariables false

namespace Bill
open Go Res

/-! ## the parser -/

/-- what `parseClientHello` returns next to its error -/
structure Hello where
  prtVer : Bytes
  sniPos : Int
  sniLen : Nat
  hasKeyShare : Bool
deriving DecidableEq, Repr

def handshakeTypeClientHello : UInt8 := 0x01
def extTypeSNI : Nat := 0x0000
def extTypeKeyShare : Nat := 0x0033

/-- from the record header to `prtVer` -/
def readPrtVer (data : Bytes) : Res Bytes := do
  let recordLen ← rd16 data 3
  failIf (data.length < 5 + recordLen) "record length exceeds data size"
  failIf (recordLen < 4) "handshake message too short"
  let typ ← idx data 5
  failIf (typ ≠ handshakeTypeClientHello)
    ("not a ClientHello handshake (type=" ++ toString typ.toNat ++ ")")
  let b1 ← idx data 6
  let b2 ← idx data 7
  let b3 ← idx data 8
  let handshakeLen := b1.toNat * 65536 + b2.toNat * 256 + b3.toNat
  failIf (handshakeLen + 4 > recordLen) "handshake length exceeds record length"
  failIf (handshakeLen < 2 + 32 + 1) "ClientHello too short for mandatory fields"
  slice data 9 11

/-- past `session_id`, `cipher_suites` and `compression_methods` -/
def skipVectors (data : Bytes) : Res Nat := do
  failIf (43 ≥ data.length) "unexpected end after Random"
  let sessionIDLen ← idx data 43
  failIf (44 + sessionIDLen.toNat > data.length) "session_id length exceeds data"
  let offset := 44 + sessionIDLen.toNat
  failIf (offset + 2 > data.length) "cannot read cipher_suites length"
  let csLen ← rd16 data offset
  failIf (offset + 2 + csLen > data.length) "cipher_suites exceed data"
  let offset := offset + 2 + csLen
  failIf (offset ≥ data.length) "cannot read compression_methods length"
  let compMethodsLen ← idx data offset
  failIf (offset + 1 + compMethodsLen.toNat > data.length) "compression_methods exceed data"
  pure (offset + 1 + compMethodsLen.toNat)

/-- the body of the `server_name` branch: where the first name starts, and its length -/
def readSNI (data : Bytes) (extDataStart extLen : Nat) : Res (Nat × Nat) := do
  failIf (extLen < 2) "malformed SNI extension (too short for list length)"
  let listLen ← rd16 data extDataStart
  failIf (listLen + 2 ≠ extLen) "SNI list length field mismatch"
  let cursor := extDataStart + 2
  failIf (cursor + 3 > extDataStart + extLen) "SNI entry too short"
  let nameType ← idx data cursor
  failIf (nameType ≠ 0) "unsupported SNI name type"
  let nameLen ← rd16 data ↑(cursor + 1)
  let nameStart := cursor + 3
  failIf (nameStart + nameLen > extDataStart + extLen) "SNI name length exceeds extension"
  pure (nameStart, nameLen)

/-- the loop over the extensions; `sniPos`, `sniLen` and `hasKeyShare` are its variables -/
def extLoop (data prtVer : Bytes) (extensionsEnd : Nat) :
    Nat → Nat → Int → Nat → Bool → Res Hello
  | 0, _, sniPos, sniLen, hasKeyShare => .ok ⟨prtVer, sniPos, sniLen, hasKeyShare⟩
  | fuel + 1, offset, sniPos, sniLen, hasKeyShare =>
    if offset + 4 ≤ extensionsEnd then do
      let extType ← rd16 data offset
      let extLen ← rd16 data ↑(offset + 2)
      let extDataStart := offset + 4
      let extDataEnd := extDataStart + extLen
      failIf (extDataEnd > extensionsEnd) "extension length exceeds extensions block"
      let keyShare := hasKeyShare || decide (extType = extTypeKeyShare)
      if extType = extTypeKeyShare ∧ sniPos ≠ -1 then .ok ⟨prtVer, sniPos, sniLen, keyShare⟩
      else if sniPos = -1 ∧ extType = extTypeSNI then do
        let name ← readSNI data extDataStart extLen
        if keyShare then .ok ⟨prtVer, name.1, name.2, keyShare⟩
        else extLoop data prtVer extensionsEnd fuel extDataEnd name.1 name.2 keyShare
      else extLoop data prtVer extensionsEnd fuel extDataEnd sniPos sniLen keyShare
    else .ok ⟨prtVer, sniPos, sniLen, hasKeyShare⟩

def parseClientHello (data : Bytes) : Res Hello := do
  let prtVer ← readPrtVer data
  let offset ← skipVectors data
  if offset + 2 > data.length then .ok ⟨prtVer, -1, 0, false⟩
  else do
    let extTotalLen ← rd16 data offset
    failIf (offset + 2 + extTotalLen > data.length) "extensions length exceeds data"
    extLoop data prtVer (offset + 2 + extTotalLen) data.length (offset + 2) (-1) 0 false

/-! ## the mandatory fields -/

theorem idx_byte {d : Bytes} {n : Nat} (h : n < d.length) : ∃ b, idx d (n : Int) = .ok b :=
  ⟨_, idx_nat h⟩

theorem readPrtVer_ne_panic {data : Bytes} (h : 5 ≤ data.length) : readPrtVer data ≠ .panic := by
  unfold readPrtVer
  rw [show (3 : Int) = ((3 : Nat) : Int) from rfl, rd16_nat (by omega), bind_ok]
  refine failIf_bind_ne_panic fun h1 => failIf_bind_ne_panic fun h2 => ?_
  obtain ⟨b0, e0⟩ := idx_byte (d := data) (n := 5) (by omega)
  obtain ⟨b1, e1⟩ := idx_byte (d := data) (n := 6) (by omega)
  obtain ⟨b2, e2⟩ := idx_byte (d := data) (n := 7) (by omega)
  obtain ⟨b3, e3⟩ := idx_byte (d := data) (n := 8) (by omega)
  rw [show (5 : Int) = ((5 : Nat) : Int) from rfl, e0, bind_ok]
  refine failIf_bind_ne_panic fun h3 => ?_
  rw [show (6 : Int) = ((6 : Nat) : Int) from rfl, e1, bind_ok,
    show (7 : Int) = ((7 : Nat) : Int) from rfl, e2, bind_ok,
    show (8 : Int) = ((8 : Nat) : Int) from rfl, e3, bind_ok]
  refine failIf_bind_ne_panic fun h4 => failIf_bind_ne_panic fun h5 => ?_
  rw [Ne, slice_eq_panic, not_not]
  omega

theorem readPrtVer_length {data v : Bytes} (h : readPrtVer data = .ok v) : v.length = 2 := by
  unfold readPrtVer at h
  simp only [bind_eq_ok] at h
  obtain ⟨_, -, _, -, _, -, _, -, _, -, _, -, _, -, _, -, _, -, _, -, h⟩ := h
  obtain ⟨hr, rfl⟩ := slice_eq_ok.mp h
  rw [List.length_drop, List.length_take]
  omega

theorem skipVectors_ne_panic (data : Bytes) : skipVectors data ≠ .panic := by
  unfold skipVectors
  refine failIf_bind_ne_panic fun h1 => ?_
  obtain ⟨sid, e1⟩ := idx_byte (d := data) (n := 43) (by omega)
  rw [show (43 : Int) = ((43 : Nat) : Int) from rfl, e1, bind_ok]
  refine failIf_bind_ne_panic fun h2 => failIf_bind_ne_panic fun h3 => ?_
  rw [rd16_nat (by omega), bind_ok]
  refine failIf_bind_ne_panic fun h4 => failIf_bind_ne_panic fun h5 => ?_
  obtain ⟨cm, e2⟩ := idx_byte (d := data)
    (n := 44 + sid.toNat + 2 + u16At data (44 + sid.toNat)) (by omega)
  rw [e2, bind_ok]
  exact failIf_bind_ne_panic fun h6 => by simp

theorem skipVectors_ok {data : Bytes} {offset : Nat} (h : skipVectors data = .ok offset) :
    ∃ sid cm : UInt8, ∃ cs : Nat, idx data 43 = .ok sid ∧ rd16 data ↑(44 + sid.toNat) = .ok cs ∧
      idx data ↑(44 + sid.toNat + 2 + cs) = .ok cm ∧ offset = 44 + sid.toNat + 2 + cs + 1 + cm.toNat ∧
      offset ≤ data.length := by
  unfold skipVectors at h
  simp only [bind_eq_ok, failIf_eq_ok, pure_eq, ok.injEq] at h
  obtain ⟨_, -, sid, hsid, _, -, _, -, cs, hcs, _, -, _, -, cm, hcm, _, hle, rfl⟩ := h
  exact ⟨sid, cm, cs, hsid, hcs, hcm, rfl, by omega⟩

theorem skipVectors_bounds {data : Bytes} {offset : Nat} (h : skipVectors data = .ok offset) :
    47 ≤ offset ∧ offset ≤ data.length := by
  obtain ⟨sid, cm, cs, -, -, -, rfl, hle⟩ := skipVectors_ok h
  omega

/-! ## the extensions -/

/-- no server name, or a name inside `data[lo:hi]` -/
def SniIn (lo hi : Nat) (pos : Int) (len : Nat) : Prop :=
  pos = -1 ∧ len = 0 ∨ (lo : Int) ≤ pos ∧ pos + len ≤ hi

theorem SniIn.mono {lo hi hi' : Nat} {pos : Int} {len : Nat} (h : SniIn lo hi pos len)
    (hle : hi ≤ hi') : SniIn lo hi' pos len := by
  unfold SniIn at h ⊢
  omega

theorem readSNI_ne_panic {data : Bytes} {start len : Nat} (h : start + len ≤ data.length) :
    readSNI data start len ≠ .panic := by
  unfold readSNI
  refine failIf_bind_ne_panic fun h1 => ?_
  rw [rd16_nat (by omega), bind_ok]
  refine failIf_bind_ne_panic fun h2 => failIf_bind_ne_panic fun h3 => ?_
  obtain ⟨t, e1⟩ := idx_byte (d := data) (n := start + 2) (by omega)
  rw [e1, bind_ok]
  refine failIf_bind_ne_panic fun h4 => ?_
  rw [rd16_nat (by omega), bind_ok]
  exact failIf_bind_ne_panic fun h5 => by simp

theorem readSNI_ok {data : Bytes} {start len : Nat} {name : Nat × Nat}
    (h : readSNI data start len = .ok name) :
    name.1 = start + 5 ∧ name.1 + name.2 ≤ start + len ∧ data[start + 2]? = some 0 ∧
      rd16 data ↑(start + 3) = .ok name.2 := by
  unfold readSNI at h
  simp only [bind_eq_ok, failIf_eq_ok, pure_eq, ok.injEq] at h
  obtain ⟨_, -, _, -, _, -, _, -, typ, htyp, _, hzero, _, hlen, _, hle, rfl⟩ := h
  refine ⟨by omega, by omega, ?_, hlen⟩
  rw [not_not] at hzero
  rw [← hzero]
  exact (idx_eq_ok.mp htyp).2

theorem readSNI_bounds {data : Bytes} {start len : Nat} {name : Nat × Nat}
    (h : readSNI data start len = .ok name) :
    name.1 = start + 5 ∧ name.1 + name.2 ≤ start + len := ⟨(readSNI_ok h).1, (readSNI_ok h).2.1⟩

section
variable {data prtVer : Bytes} {extensionsEnd : Nat}

theorem extLoop_step {fuel offset : Nat} {sniPos : Int} {sniLen : Nat} {hasKeyShare : Bool}
    (hend : extensionsEnd ≤ data.length) (hoff : offset + 4 ≤ extensionsEnd) :
    extLoop data prtVer extensionsEnd (fuel + 1) offset sniPos sniLen hasKeyShare =
      (do
        let extType := u16At data offset
        let extLen := u16At data (offset + 2)
        failIf (offset + 4 + extLen > extensionsEnd) "extension length exceeds extensions block"
        let keyShare := hasKeyShare || decide (extType = extTypeKeyShare)
        if extType = extTypeKeyShare ∧ sniPos ≠ -1 then .ok ⟨prtVer, sniPos, sniLen, keyShare⟩
        else if sniPos = -1 ∧ extType = extTypeSNI then do
          let name ← readSNI data (offset + 4) extLen
          if keyShare then .ok ⟨prtVer, name.1, name.2, keyShare⟩
          else extLoop data prtVer extensionsEnd fuel (offset + 4 + extLen) name.1 name.2 keyShare
        else extLoop data prtVer extensionsEnd fuel (offset + 4 + extLen) sniPos sniLen keyShare) := by
  rw [extLoop, if_pos hoff, rd16_nat (by omega), bind_ok, rd16_nat (by omega), bind_ok]

theorem extLoop_stop {fuel offset : Nat} {sniPos : Int} {sniLen : Nat} {hasKeyShare : Bool}
    (hoff : ¬ offset + 4 ≤ extensionsEnd) :
    extLoop data prtVer extensionsEnd fuel offset sniPos sniLen hasKeyShare =
      .ok ⟨prtVer, sniPos, sniLen, hasKeyShare⟩ := by
  cases fuel with
  | zero => rfl
  | succ fuel => rw [extLoop, if_neg hoff]

theorem extLoop_ne_panic (hend : extensionsEnd ≤ data.length) (fuel offset : Nat) (sniPos : Int)
    (sniLen : Nat) (hasKeyShare : Bool) :
    extLoop data prtVer extensionsEnd fuel offset sniPos sniLen hasKeyShare ≠ .panic := by
  induction fuel generalizing offset sniPos sniLen hasKeyShare with
  | zero => simp [extLoop]
  | succ fuel ih =>
    by_cases hoff : offset + 4 ≤ extensionsEnd
    · rw [extLoop_step hend hoff]
      refine failIf_bind_ne_panic fun h1 => ?_
      -- the server name: the reader stays in range, then the loop returns or goes on
      have hname := readSNI_ne_panic (show offset + 4 + u16At data (offset + 2) ≤ data.length by omega)
      dsimp only
      split_ifs with h2 h3 h4
      · simp
      · intro hp
        rcases bind_eq_panic.mp hp with h | ⟨name, _, h⟩
        · exact hname h
        · cases h
      · intro hp
        rcases bind_eq_panic.mp hp with h | ⟨name, _, h⟩
        · exact hname h
        · exact ih _ _ _ _ h
      · exact ih _ _ _ _
    · rw [extLoop_stop hoff]; simp

/-- **What every turn keeps, the loop returns with.**  An extension is passed over, or its name is
taken; `I` speaks of the offset and of the name found so far. -/
theorem extLoop_invariant {I : Nat → Int → Nat → Prop} (hend : extensionsEnd ≤ data.length)
    (hpass : ∀ offset pos len, offset + 4 + u16At data (offset + 2) ≤ extensionsEnd →
      ¬ (pos = -1 ∧ u16At data offset = extTypeSNI) → I offset pos len →
      I (offset + 4 + u16At data (offset + 2)) pos len)
    (htake : ∀ offset len name, offset + 4 + u16At data (offset + 2) ≤ extensionsEnd →
      u16At data offset = extTypeSNI → readSNI data (offset + 4) (u16At data (offset + 2)) = .ok name →
      I offset (-1) len → I (offset + 4 + u16At data (offset + 2)) name.1 name.2)
    {h : Hello} (fuel offset : Nat) (sniPos : Int) (sniLen : Nat) (hasKeyShare : Bool)
    (hI : I offset sniPos sniLen)
    (hrun : extLoop data prtVer extensionsEnd fuel offset sniPos sniLen hasKeyShare = .ok h) :
    h.prtVer = prtVer ∧ ∃ last, I last h.sniPos h.sniLen := by
  induction fuel generalizing offset sniPos sniLen hasKeyShare with
  | zero =>
    cases hrun
    exact ⟨rfl, offset, hI⟩
  | succ fuel ih =>
    by_cases hoff : offset + 4 ≤ extensionsEnd
    · rw [extLoop_step hend hoff, bind_eq_ok] at hrun
      obtain ⟨_, hfits, hrun⟩ := hrun
      rw [failIf_eq_ok, not_lt] at hfits
      dsimp only at hrun
      split_ifs at hrun with hkey hsni hshare
      · cases hrun
        exact ⟨rfl, offset, hI⟩
      · obtain ⟨name, hname, hrun⟩ := bind_eq_ok.mp hrun
        cases hrun
        exact ⟨rfl, _, htake offset sniLen name hfits hsni.2 hname (hsni.1 ▸ hI)⟩
      · obtain ⟨name, hname, hrun⟩ := bind_eq_ok.mp hrun
        exact ih _ _ _ _ (htake offset sniLen name hfits hsni.2 hname (hsni.1 ▸ hI)) hrun
      · exact ih _ _ _ _ (hpass offset sniPos sniLen hfits hsni hI) hrun
    · rw [extLoop_stop hoff] at hrun
      cases hrun
      exact ⟨rfl, offset, hI⟩

/-- the name the loop reports lies inside the extensions, behind the two headers before it -/
theorem extLoop_sni (lo : Nat) (hend : extensionsEnd ≤ data.length) {h : Hello} (fuel offset : Nat)
    (sniPos : Int) (sniLen : Nat) (hasKeyShare : Bool) (hlo : lo ≤ offset + 9)
    (hsni : SniIn lo extensionsEnd sniPos sniLen)
    (hrun : extLoop data prtVer extensionsEnd fuel offset sniPos sniLen hasKeyShare = .ok h) :
    h.prtVer = prtVer ∧ SniIn lo extensionsEnd h.sniPos h.sniLen := by
  obtain ⟨hver, _, -, hin⟩ := extLoop_invariant
    (I := fun offset pos len => lo ≤ offset + 9 ∧ SniIn lo extensionsEnd pos len) hend
    (fun offset pos len hfits _ hI => ⟨by omega, hI.2⟩)
    (fun offset len name hfits _ hname hI => by
      have hb := readSNI_bounds hname
      exact ⟨by omega, Or.inr ⟨by omega, by omega⟩⟩)
    fuel offset sniPos sniLen hasKeyShare ⟨hlo, hsni⟩ hrun
  exact ⟨hver, hin⟩

/-- every turn moves on by at least four bytes, so more fuel than that changes nothing -/
theorem extLoop_fuel (hend : extensionsEnd ≤ data.length) (fuel offset : Nat) (sniPos : Int)
    (sniLen : Nat) (hasKeyShare : Bool) (hf : extensionsEnd < offset + 4 * (fuel + 1)) :
    extLoop data prtVer extensionsEnd (fuel + 1) offset sniPos sniLen hasKeyShare =
      extLoop data prtVer extensionsEnd fuel offset sniPos sniLen hasKeyShare := by
  induction fuel generalizing offset sniPos sniLen hasKeyShare with
  | zero => rw [extLoop_stop (by omega), extLoop_stop (by omega)]
  | succ fuel ih =>
    by_cases hoff : offset + 4 ≤ extensionsEnd
    · rw [extLoop_step hend hoff, extLoop_step hend hoff]
      dsimp only
      have hnext : ∀ (p : Int) (l : Nat) (k : Bool),
          extLoop data prtVer extensionsEnd (fuel + 1) (offset + 4 + u16At data (offset + 2)) p l k =
            extLoop data prtVer extensionsEnd fuel (offset + 4 + u16At data (offset + 2)) p l k :=
        fun p l k => ih _ p l k (by omega)
      simp only [hnext]
    · rw [extLoop_stop hoff, extLoop_stop hoff]

end

/-! ## the parser as a whole -/

/-- **An accepted record.**  It has at least 47 bytes; its version has two; the server name is
absent, or starts at byte 58 or later and ends inside the record. -/
theorem parseClientHello_spec {data : Bytes} {h : Hello} (hp : parseClientHello data = .ok h) :
    47 ≤ data.length ∧ h.prtVer.length = 2 ∧ SniIn 58 data.length h.sniPos h.sniLen := by
  unfold parseClientHello at hp
  obtain ⟨v, hv, hp⟩ := bind_eq_ok.mp hp
  obtain ⟨offset, hoff, hp⟩ := bind_eq_ok.mp hp
  have hb := skipVectors_bounds hoff
  have hlen := readPrtVer_length hv
  refine ⟨by omega, ?_⟩
  split_ifs at hp with h1
  · cases hp
    exact ⟨hlen, Or.inl ⟨rfl, rfl⟩⟩
  · rw [rd16_nat (by omega), bind_ok, bind_eq_ok] at hp
    obtain ⟨_, h2, hp⟩ := hp
    rw [failIf_eq_ok] at h2
    have hs := extLoop_sni 58 (by omega) _ _ _ _ _ (by omega) (Or.inl ⟨rfl, rfl⟩) hp
    exact ⟨by rw [hs.1]; exact hlen, hs.2.mono (by omega)⟩

/-- the parser reads out of range only where there is no record header -/
theorem parseClientHello_panics (data : Bytes) :
    parseClientHello data = .panic ↔ data.length < 5 := by
  constructor
  · intro hp
    by_contra hlen
    unfold parseClientHello at hp
    rcases bind_eq_panic.mp hp with h | ⟨v, hv, hp⟩
    · exact readPrtVer_ne_panic (by omega) h
    rcases bind_eq_panic.mp hp with h | ⟨offset, hoff, hp⟩
    · exact skipVectors_ne_panic data h
    split_ifs at hp with h1
    rw [rd16_nat (by omega), bind_ok] at hp
    refine failIf_bind_ne_panic (fun h2 => ?_) hp
    exact extLoop_ne_panic (by omega) _ _ _ _ _
  · intro hlen
    have hs : slice data 3 (3 + 2) = .panic := slice_eq_panic.mpr (by omega)
    unfold parseClientHello readPrtVer rd16
    rw [hs]
    rfl

/-- a ClientHello for the name `a.b`, with an empty `key_share` behind it -/
def sampleHello : Bytes :=
  [0x16, 3, 1, 0, 63, 1, 0, 0, 59, 3, 3] ++ List.replicate 32 0 ++
    [0, 0, 2, 0x13, 1, 1, 0, 0, 16, 0, 0, 0, 8, 0, 6, 0, 0, 3, 97, 46, 98, 0, 0x33, 0, 0]

example : parseClientHello sampleHello = .ok ⟨[3, 3], 61, 3, true⟩ := by decide +kernel

/-- the same without extensions -/
def namelessHello : Bytes :=
  [0x16, 3, 1, 0, 45, 1, 0, 0, 41, 3, 3] ++ List.replicate 32 0 ++ [0, 0, 2, 0x13, 1, 1, 0]

/-- the same with the name as its last bytes -/
def lastNameHello : Bytes :=
  [0x16, 3, 1, 0, 59, 1, 0, 0, 55, 3, 3] ++ List.replicate 32 0 ++
    [0, 0, 2, 0x13, 1, 1, 0, 0, 12, 0, 0, 0, 8, 0, 6, 0, 0, 3, 97, 46, 98]

end Bill
