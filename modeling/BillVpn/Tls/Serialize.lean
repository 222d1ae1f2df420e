import BillVpn.Go.Window
import BillVpn.Tls.ClientHello

/-!
# What a client writes, and what the parser reads back

A `ClientHello` is the message a TLS client builds; `serialize` writes it into one record, as the
protocol lays it out.  The parser does not know the lists it walks over, only offsets: `At` says which
field stands at an offset.

* `readSNI_serverName`    the first entry of a `server_name` extension;
* `extLoop_ext`           one turn of the loop, over one written extension;
* `extLoop_others`        extensions without a name leave the position alone;
* `extLoop_name`          the name is found wherever it stands in the list, before or after
                          `key_share`;
* `parse_serialize`       **the parser reads back what was written**.
-/

set_option linter.unusedVariables false

namespace Bill
open Go Res

/-! ## the message -/

/-- an extension: `server_name` with a first `host_name` entry and the bytes of the entries behind
it, or any other type with any content -/
inductive Extension where
  | serverName (host others : Bytes)
  | other (type : UInt16) (unnamed : type.toNat ≠ extTypeSNI) (content : Bytes)

namespace Extension

def typ : Extension → Nat
  | .serverName _ _ => extTypeSNI
  | .other type _ _ => type.toNat

def content : Extension → Bytes
  | .serverName host others =>
    be16 (3 + host.length + others.length) ++ ([0] ++ (be16 host.length ++ (host ++ others)))
  | .other _ _ content => content

def bytes (e : Extension) : Bytes := be16 e.typ ++ (be16 e.content.length ++ e.content)

def isName : Extension → Bool
  | .serverName _ _ => true
  | .other _ _ _ => false

def isKeyShare (e : Extension) : Bool := decide (e.typ = extTypeKeyShare)

theorem typ_lt (e : Extension) : e.typ < 65536 := by
  cases e with
  | serverName host others => exact (by decide : extTypeSNI < 65536)
  | other type unnamed content => exact type.toNat_lt

theorem bytes_length (e : Extension) : e.bytes.length = 4 + e.content.length := by
  unfold bytes
  rw [List.length_append, List.length_append, be16_length, be16_length]
  omega

theorem typ_ne (e : Extension) (h : e.isName = false) : e.typ ≠ extTypeSNI := by
  cases e with
  | serverName host others => cases h
  | other type unnamed content => exact unnamed

end Extension

def extBytes (es : List Extension) : Bytes := es.flatMap Extension.bytes

theorem extBytes_cons (e : Extension) (es : List Extension) :
    extBytes (e :: es) = e.bytes ++ extBytes es := rfl

theorem extBytes_append (es es' : List Extension) :
    extBytes (es ++ es') = extBytes es ++ extBytes es' := List.flatMap_append

theorem length_le_extBytes (es : List Extension) : es.length ≤ (extBytes es).length := by
  induction es with
  | nil => exact Nat.zero_le _
  | cons a es ih =>
    rw [extBytes_cons, List.length_append, List.length_cons, a.bytes_length]
    omega

/-- the extensions of a hello, or nothing at all behind the compression methods -/
def extBlock : Option (List Extension) → Bytes
  | none => []
  | some es => be16 (extBytes es).length ++ extBytes es

/-- the message without its lengths -/
structure HelloFields where
  /-- content type and version of the record -/
  header : Bytes
  version : Bytes
  random : Bytes
  sessionId : Bytes
  cipherSuites : Bytes
  compression : Bytes
  extensions : Option (List Extension)

namespace HelloFields

def body (f : HelloFields) : Bytes :=
  f.version ++ (f.random ++ ([UInt8.ofNat f.sessionId.length] ++ (f.sessionId ++
    (be16 f.cipherSuites.length ++ (f.cipherSuites ++
      ([UInt8.ofNat f.compression.length] ++ (f.compression ++ extBlock f.extensions)))))))

def serialize (f : HelloFields) : Bytes :=
  f.header ++ (be16 (4 + f.body.length) ++ ([handshakeTypeClientHello] ++
    ([UInt8.ofNat (f.body.length / 65536)] ++ (be16 f.body.length ++ f.body))))

def list (f : HelloFields) : List Extension := f.extensions.getD []

end HelloFields

/-- a hello that can be written into one record, with at most one `server_name` -/
structure ClientHello extends HelloFields where
  header_length : header.length = 3
  version_length : version.length = 2
  random_length : random.length = 32
  sessionId_length : sessionId.length ≤ 255
  compression_length : compression.length ≤ 255
  fits : 4 + toHelloFields.body.length < 65536
  one_name : toHelloFields.list.countP Extension.isName ≤ 1

/-! ## the extensions -/

section
variable {data prtVer : Bytes} {extensionsEnd : Nat}

theorem readSNI_serverName {host others : Bytes} {start : Nat}
    (hlen : (Extension.serverName host others).content.length < 65536)
    (h : At data start (Extension.serverName host others).content) :
    readSNI data start (Extension.serverName host others).content.length =
      .ok (start + 5, host.length) := by
  have hcl : (Extension.serverName host others).content.length
      = 5 + host.length + others.length := by
    simp only [Extension.content, List.length_append, be16_length, List.length_singleton]
    omega
  rw [hcl] at hlen ⊢
  have hlist : rd16 data ↑start = .ok (3 + host.length + others.length) :=
    h.left.rd16 (by omega)
  have h1 := h.right (show start + 2 = start + 2 from rfl)
  have hnext := h1.right (show start + 2 + 1 = start + 2 + 1 from rfl)
  have htype : idx data ↑(start + 2) = .ok 0 := h1.left.byte
  have hname : rd16 data ↑(start + 2 + 1) = .ok host.length := hnext.left.rd16 (by omega)
  unfold readSNI
  rw [failIf_bind (by omega), hlist, bind_ok, failIf_bind (by omega)]
  dsimp only
  rw [failIf_bind (by omega), htype, bind_ok, failIf_bind (by simp), hname,
    bind_ok, failIf_bind (by omega)]
  rfl

theorem extLoop_ext {e : Extension} {offset fuel : Nat} {sniPos : Int} {sniLen : Nat}
    {hasKeyShare : Bool} (hend : extensionsEnd ≤ data.length)
    (hfits : offset + e.bytes.length ≤ extensionsEnd) (hlen : e.content.length < 65536)
    (h : At data offset e.bytes) :
    extLoop data prtVer extensionsEnd (fuel + 1) offset sniPos sniLen hasKeyShare =
      (if e.typ = extTypeKeyShare ∧ sniPos ≠ -1 then
        .ok ⟨prtVer, sniPos, sniLen, hasKeyShare || e.isKeyShare⟩
      else if sniPos = -1 ∧ e.typ = extTypeSNI then do
        let name ← readSNI data (offset + 4) e.content.length
        if hasKeyShare || e.isKeyShare then
          .ok ⟨prtVer, name.1, name.2, hasKeyShare || e.isKeyShare⟩
        else
          extLoop data prtVer extensionsEnd fuel (offset + e.bytes.length) name.1 name.2
            (hasKeyShare || e.isKeyShare)
      else extLoop data prtVer extensionsEnd fuel (offset + e.bytes.length) sniPos sniLen
        (hasKeyShare || e.isKeyShare)) := by
  have hb := e.bytes_length
  have htyp : u16At data offset = e.typ := h.left.u16At e.typ_lt
  have hlen' : u16At data (offset + 2) = e.content.length :=
    (h.right (show offset + 2 = offset + 2 from rfl)).left.u16At hlen
  rw [extLoop_step hend (by omega)]
  dsimp only
  rw [htyp, hlen', failIf_bind (by omega), hb, ← Nat.add_assoc]
  rfl

/-- extensions without a name: the position stays, and a `key_share` among them is seen -/
theorem extLoop_others (hend : extensionsEnd ≤ data.length) {es : List Extension}
    (hes : ∀ e ∈ es, e.isName = false) {offset fuel : Nat} {sniPos : Int} {sniLen : Nat}
    {hasKeyShare : Bool} (hfuel : es.length ≤ fuel)
    (hlast : offset + (extBytes es).length = extensionsEnd) (hlen : (extBytes es).length < 65536)
    (h : At data offset (extBytes es)) :
    extLoop data prtVer extensionsEnd fuel offset sniPos sniLen hasKeyShare =
      .ok ⟨prtVer, sniPos, sniLen, hasKeyShare || es.any Extension.isKeyShare⟩ := by
  induction es generalizing offset fuel hasKeyShare with
  | nil =>
    have hnil : (extBytes []).length = 0 := rfl
    rw [extLoop_stop (by omega), List.any_nil, Bool.or_false]
  | cons e es ih =>
    rw [extBytes_cons] at h hlast hlen
    rw [List.length_append] at hlast hlen
    have hb := e.bytes_length
    obtain ⟨fuel, rfl⟩ : ∃ n, fuel = n + 1 := ⟨fuel - 1, by rw [List.length_cons] at hfuel; omega⟩
    have hne := e.typ_ne (hes e List.mem_cons_self)
    rw [extLoop_ext hend (by omega) (by omega) h.left, List.any_cons]
    by_cases hstop : e.typ = extTypeKeyShare ∧ sniPos ≠ -1
    · -- the early return: the rest of the list is not looked at, and could add nothing
      have hks : e.isKeyShare = true := decide_eq_true hstop.1
      rw [if_pos hstop, hks, Bool.true_or]
    · rw [if_neg hstop, if_neg fun hh => hne hh.2, ih (fun a ha => hes a (List.mem_cons_of_mem _ ha))
        (by rw [List.length_cons] at hfuel; omega) (by omega) (by omega) (h.right rfl),
        Bool.or_assoc]

theorem extLoop_walk (hend : extensionsEnd ≤ data.length) {es : List Extension}
    (hes : ∀ e ∈ es, e.isName = false) {offset fuel sniLen : Nat} {hasKeyShare : Bool}
    (hlast : offset + (extBytes es).length ≤ extensionsEnd) (hlen : (extBytes es).length < 65536)
    (h : At data offset (extBytes es)) :
    extLoop data prtVer extensionsEnd (es.length + fuel) offset (-1) sniLen hasKeyShare =
      extLoop data prtVer extensionsEnd fuel (offset + (extBytes es).length) (-1) sniLen
        (hasKeyShare || es.any Extension.isKeyShare) := by
  induction es generalizing offset hasKeyShare with
  | nil =>
    rw [List.any_nil, Bool.or_false, List.length_nil, Nat.zero_add]
    rfl
  | cons e es ih =>
    rw [extBytes_cons] at h hlast hlen ⊢
    rw [List.length_append] at hlast hlen ⊢
    have hb := e.bytes_length
    have hne := e.typ_ne (hes e List.mem_cons_self)
    rw [List.length_cons, Nat.add_right_comm, extLoop_ext hend (by omega) (by omega) h.left,
      if_neg fun hh => hh.2 rfl, if_neg fun hh => hne hh.2,
      ih (fun a ha => hes a (List.mem_cons_of_mem _ ha)) (by omega) (by omega) (h.right rfl),
      List.any_cons, Bool.or_assoc, Nat.add_assoc]

theorem extLoop_name (ver : Bytes) (hend : extensionsEnd ≤ data.length)
    {front back : List Extension} {host others : Bytes} (hfront : ∀ e ∈ front, e.isName = false)
    (hback : ∀ e ∈ back, e.isName = false) {offset fuel : Nat}
    (hfuel : (front ++ .serverName host others :: back).length ≤ fuel)
    (hlast : offset + (extBytes (front ++ .serverName host others :: back)).length = extensionsEnd)
    (hlen : (extBytes (front ++ .serverName host others :: back)).length < 65536)
    (h : At data offset (extBytes (front ++ .serverName host others :: back))) :
    extLoop data ver extensionsEnd fuel offset (-1) 0 false =
        .ok ⟨ver, ↑(offset + (extBytes front).length + 9), host.length,
          (front ++ .serverName host others :: back).any Extension.isKeyShare⟩ ∧
      At data (offset + (extBytes front).length + 9) host := by
  rw [extBytes_append, extBytes_cons] at h hlast hlen
  rw [List.length_append, List.length_append] at hlast hlen
  rw [List.length_append, List.length_cons] at hfuel
  have hb := (Extension.serverName host others).bytes_length
  have hname := h.right rfl
  have hcontent := (hname.left.right (show _ + 2 = _ from rfl)).right (show _ + 2 = _ from rfl)
  obtain ⟨more, rfl⟩ : ∃ n, fuel = front.length + (n + 1) :=
    ⟨fuel - front.length - 1, by omega⟩
  have hread := readSNI_serverName (by omega) hcontent
  refine ⟨?_, ?_⟩
  · rw [extLoop_walk hend hfront (by omega) (by omega) h.left, Bool.false_or,
      extLoop_ext hend (by omega) (by omega) hname.left, if_neg fun hh => hh.2 rfl,
      if_pos ⟨rfl, rfl⟩, hread, bind_ok]
    have hself : (Extension.serverName host others).isKeyShare = false := by rfl
    rw [hself, Bool.or_false, List.any_append, List.any_cons, hself, Bool.false_or]
    by_cases hks : front.any Extension.isKeyShare = true
    · rw [if_pos hks, hks, Bool.true_or]
    · rw [if_neg hks, extLoop_others hend hback (by omega) (by omega) (by omega)
        (hname.right rfl)]
  · have hhost := hcontent.right (show _ + 2 = _ from rfl)
    exact ((hhost.right (show _ + 1 = _ from rfl)).right (show _ + 2 = _ from rfl)).left

end

/-! ## the fields before the extensions -/

namespace ClientHello
variable (c : ClientHello)

theorem at_handshake : At c.serialize 5 ([handshakeTypeClientHello] ++
    ([UInt8.ofNat (c.body.length / 65536)] ++ (be16 c.body.length ++ c.body))) :=
  ((At.whole c.serialize).right (by rw [c.header_length])).right rfl

theorem at_body : At c.serialize 9 c.body :=
  ((c.at_handshake.right rfl).right rfl).right rfl

theorem serialize_length : c.serialize.length = 9 + c.body.length := by
  have h := c.header_length
  unfold HelloFields.serialize
  simp only [List.length_append, List.length_singleton, be16_length]
  omega

theorem body_length : c.body.length = 37 + c.sessionId.length + c.cipherSuites.length
    + 1 + c.compression.length + (extBlock c.extensions).length := by
  have h1 := c.version_length
  have h2 := c.random_length
  unfold HelloFields.body
  simp only [List.length_append, List.length_singleton, be16_length]
  omega

theorem readPrtVer_serialize : readPrtVer c.serialize = .ok c.version := by
  have hfits := c.fits
  have hlen := c.serialize_length
  have hbody := c.body_length
  have hh := c.at_handshake
  have hrec : rd16 c.serialize 3 = .ok (4 + c.body.length) :=
    ((At.whole c.serialize).right (by rw [c.header_length])).left.rd16 hfits
  have htyp : idx c.serialize 5 = .ok handshakeTypeClientHello := hh.left.byte
  have h6 := hh.right (show 5 + 1 = 6 from rfl)
  have hb1 : idx c.serialize 6 = .ok (UInt8.ofNat (c.body.length / 65536)) := h6.left.byte
  have h7 := (h6.right (show 6 + 1 = 7 from rfl)).left
  have hb2 : idx c.serialize 7 = .ok (UInt8.ofNat (c.body.length / 256)) := h7.byte
  have hb3 : idx c.serialize 8 = .ok (UInt8.ofNat c.body.length) :=
    (At.right (x := [UInt8.ofNat (c.body.length / 256)]) h7 rfl).byte
  have hver : slice c.serialize 9 11 = .ok c.version := by
    have h := c.at_body.left.slice
    rw [c.version_length] at h
    exact h
  have hvalue : (UInt8.ofNat (c.body.length / 65536)).toNat * 65536
      + (UInt8.ofNat (c.body.length / 256)).toNat * 256 + (UInt8.ofNat c.body.length).toNat
      = c.body.length := by
    rw [UInt8.toNat_ofNat', UInt8.toNat_ofNat', UInt8.toNat_ofNat']
    omega
  unfold readPrtVer
  rw [hrec, bind_ok, failIf_bind (by omega), failIf_bind (by omega), htyp, bind_ok,
    failIf_bind (fun h => h rfl), hb1, bind_ok, hb2, bind_ok, hb3, bind_ok]
  dsimp only
  rw [hvalue, failIf_bind (by omega), failIf_bind (by omega), hver]

def extensionsAt : Nat := 47 + c.sessionId.length + c.cipherSuites.length + c.compression.length

theorem at_sessionId : At c.serialize 43 ([UInt8.ofNat c.sessionId.length] ++ (c.sessionId ++
    (be16 c.cipherSuites.length ++ (c.cipherSuites ++ ([UInt8.ofNat c.compression.length] ++
      (c.compression ++ extBlock c.extensions)))))) :=
  (c.at_body.right (by rw [c.version_length])).right (by rw [c.random_length])

theorem at_cipherSuites : At c.serialize (44 + c.sessionId.length)
    (be16 c.cipherSuites.length ++ (c.cipherSuites ++ ([UInt8.ofNat c.compression.length] ++
      (c.compression ++ extBlock c.extensions)))) :=
  (c.at_sessionId.right rfl).right rfl

theorem at_compression : At c.serialize (44 + c.sessionId.length + 2 + c.cipherSuites.length)
    ([UInt8.ofNat c.compression.length] ++ (c.compression ++ extBlock c.extensions)) :=
  (c.at_cipherSuites.right rfl).right rfl

theorem at_extBlock : At c.serialize c.extensionsAt (extBlock c.extensions) :=
  (c.at_compression.right rfl).right (by
    rw [List.length_singleton, extensionsAt]
    omega)

theorem skipVectors_serialize : skipVectors c.serialize = .ok c.extensionsAt := by
  have hfits := c.fits
  have hlen := c.serialize_length
  have hbody := c.body_length
  have hsid : idx c.serialize 43 = .ok (UInt8.ofNat c.sessionId.length) := c.at_sessionId.left.byte
  have hsid' : (UInt8.ofNat c.sessionId.length).toNat = c.sessionId.length :=
    UInt8.toNat_ofNat_of_lt' (Nat.lt_succ_of_le c.sessionId_length)
  have hcs : rd16 c.serialize ↑(44 + c.sessionId.length) = .ok c.cipherSuites.length :=
    c.at_cipherSuites.left.rd16 (by omega)
  have hcm : idx c.serialize ↑(44 + c.sessionId.length + 2 + c.cipherSuites.length) =
      .ok (UInt8.ofNat c.compression.length) := c.at_compression.left.byte
  have hcm' : (UInt8.ofNat c.compression.length).toNat = c.compression.length :=
    UInt8.toNat_ofNat_of_lt' (Nat.lt_succ_of_le c.compression_length)
  unfold skipVectors
  rw [failIf_bind (by omega), hsid, bind_ok, hsid', failIf_bind (by omega)]
  dsimp only
  rw [failIf_bind (by omega), hcs, bind_ok, failIf_bind (by omega)]
  rw [failIf_bind (by omega), hcm, bind_ok, hcm', failIf_bind (by omega), extensionsAt, pure_eq]
  congr 1
  omega

end ClientHello

/-! ## the whole message -/

theorem name_cases {es : List Extension} (h : es.countP Extension.isName ≤ 1) :
    (∀ e ∈ es, e.isName = false) ∨ ∃ front host others back,
      es = front ++ Extension.serverName host others :: back ∧ (∀ e ∈ front, e.isName = false) ∧
        ∀ e ∈ back, e.isName = false := by
  induction es with
  | nil => exact .inl fun e he => nomatch he
  | cons e es ih =>
    cases e with
    | serverName host others =>
      rw [List.countP_cons_of_pos rfl] at h
      have hback : ∀ e ∈ es, e.isName = false := fun e he =>
        Bool.eq_false_iff.mpr (List.countP_eq_zero.mp (by omega) e he)
      exact .inr ⟨[], host, others, es, rfl, fun e he => (nomatch he), hback⟩
    | other type unnamed content =>
      rw [List.countP_cons_of_neg Bool.false_ne_true] at h
      rcases ih h with hall | ⟨front, host, others, back, rfl, hfront, hback⟩
      · exact .inl (List.forall_mem_cons.mpr ⟨rfl, hall⟩)
      · exact .inr ⟨_ :: front, host, others, back, rfl,
          List.forall_mem_cons.mpr ⟨rfl, hfront⟩, hback⟩

/-- what the parser is to say about a list of extensions that stands in `data` -/
structure ReadsBack (data : Bytes) (es : List Extension) (h : Hello) : Prop where
  name : ∀ host others, .serverName host others ∈ es →
    slice data h.sniPos (h.sniPos + h.sniLen) = .ok host
  no_name : h.sniPos = -1 ↔ ∀ host others, Extension.serverName host others ∉ es
  keyShare : h.hasKeyShare = true ↔ ∃ e ∈ es, e.typ = extTypeKeyShare

theorem any_keyShare (es : List Extension) :
    es.any Extension.isKeyShare = true ↔ ∃ e ∈ es, e.typ = extTypeKeyShare := by
  rw [List.any_eq_true]
  simp only [Extension.isKeyShare, decide_eq_true_eq]

theorem ReadsBack.unnamed {data prtVer : Bytes} {es : List Extension} {sniLen : Nat}
    (hes : ∀ e ∈ es, e.isName = false) :
    ReadsBack data es ⟨prtVer, -1, sniLen, es.any Extension.isKeyShare⟩ where
  name host others hmem := nomatch hes _ hmem
  no_name := ⟨fun _ host others hmem => (nomatch hes _ hmem), fun _ => rfl⟩
  keyShare := any_keyShare es

theorem ReadsBack.named {data prtVer host others : Bytes} {front back : List Extension}
    (hfront : ∀ e ∈ front, e.isName = false) (hback : ∀ e ∈ back, e.isName = false) {n : Nat}
    (h : At data n host) :
    ReadsBack data (front ++ .serverName host others :: back)
      ⟨prtVer, ↑n, host.length,
        (front ++ .serverName host others :: back).any Extension.isKeyShare⟩ where
  name host' others' hmem := by
    rcases List.mem_append.mp hmem with hf | hb
    · exact nomatch hfront _ hf
    · rcases List.mem_cons.mp hb with heq | hb
      · cases heq
        exact h.slice
      · exact nomatch hback _ hb
  no_name := ⟨fun h => by dsimp only at h; omega,
    fun h => absurd (List.mem_append_right _ List.mem_cons_self) (h host others)⟩
  keyShare := any_keyShare _

/-- **the parser reads back what was written**: the version, the name wherever it stands, and
whether there is a `key_share` -/
theorem parse_serialize (c : ClientHello) :
    ∃ h, parseClientHello c.serialize = .ok h ∧ h.prtVer = c.version ∧
      ReadsBack c.serialize c.list h := by
  have hfits := c.fits
  have hlen := c.serialize_length
  have hbody := c.body_length
  have hat := c.at_extBlock
  have hone := c.one_name
  have hpos : c.extensionsAt + (extBlock c.extensions).length = c.serialize.length := by
    rw [ClientHello.extensionsAt]
    omega
  unfold HelloFields.list at hone ⊢
  unfold parseClientHello
  rw [c.readPrtVer_serialize, bind_ok, c.skipVectors_serialize, bind_ok]
  cases hexts : c.extensions with
  | none =>
    rw [hexts] at hpos
    have hnil : (extBlock none).length = 0 := rfl
    have hnone : ReadsBack c.serialize [] ⟨c.version, -1, 0, false⟩ :=
      .unnamed fun e he => nomatch he
    rw [if_pos (by omega)]
    exact ⟨_, rfl, rfl, hnone⟩
  | some es =>
    rw [hexts] at hat hpos hone hbody
    rw [Option.getD_some] at hone ⊢
    have hblock : (extBlock (some es)).length = 2 + (extBytes es).length := by
      rw [extBlock, List.length_append, be16_length]
    have htotal : rd16 c.serialize ↑c.extensionsAt = .ok (extBytes es).length :=
      hat.left.rd16 (by omega)
    have hes : At c.serialize (c.extensionsAt + 2) (extBytes es) := hat.right rfl
    have hfuel : es.length ≤ c.serialize.length := (length_le_extBytes es).trans (by omega)
    rw [if_neg (by omega), htotal, bind_ok, failIf_bind (by omega)]
    rcases name_cases hone with hall | ⟨front, host, others, back, rfl, hfront, hback⟩
    · rw [extLoop_others (by omega) hall hfuel rfl (by omega) hes, Bool.false_or]
      exact ⟨_, rfl, rfl, .unnamed hall⟩
    · obtain ⟨hloop, hhost⟩ := extLoop_name c.version
        (show _ ≤ c.serialize.length by omega) hfront hback hfuel rfl (by omega) hes
      exact ⟨_, hloop, rfl, .named hfront hback hhost⟩

/-- a hello with `key_share` before the name -/
def shareFirst : ClientHello where
  header := [22, 3, 1]
  version := [3, 3]
  random := List.replicate 32 0
  sessionId := []
  cipherSuites := [0x13, 0x01]
  compression := [0]
  extensions := some [.other 51 (by decide) [7], .serverName (lit "a.example") []]
  header_length := rfl
  version_length := rfl
  random_length := rfl
  sessionId_length := by decide
  compression_length := by decide
  fits := by decide +kernel
  one_name := by decide

example : parseClientHello shareFirst.serialize = .ok ⟨[3, 3], 66, 9, true⟩ := by decide +kernel

end Bill
