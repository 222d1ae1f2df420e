import BillVpn.Tls.Lossy

/-!
# The records that go out

With `oob_ex` off, everything that `sendRecords` sends in band is a sequence of TLS records.

* `TlsRecord`              a record that says how long it is and carries something;
* `Preserves`              few enough records, with the header and the payload of the one record;
* `FirstLost`              the one case in which `sendRecords` returns and has left something out;
* `records_preserved_iff`  **in every other case the sends preserve the record.**
-/

set_option linter.unusedVariables false

namespace Bill
open Go Res Proc Conn

/-! ## records -/

/-- a TLS record with something in it, and room for its length in the length field -/
structure TlsRecord where
  contentType : UInt8
  major : UInt8
  minor : UInt8
  payload : Bytes
  nonempty : payload ≠ []
  fits : payload.length < 65536

namespace TlsRecord

def bytes (r : TlsRecord) : Bytes :=
  [r.contentType, r.major, r.minor, UInt8.ofNat (r.payload.length / 256),
    UInt8.ofNat r.payload.length] ++ r.payload

theorem bytes_length (r : TlsRecord) : r.bytes.length = 5 + r.payload.length := by
  unfold bytes
  rw [List.length_append]
  rfl

theorem length_field (r : TlsRecord) : u16At r.bytes 3 = r.payload.length := by
  show (UInt8.ofNat (r.payload.length / 256)).toNat * 256 + (UInt8.ofNat r.payload.length).toNat = _
  have h := r.fits
  rw [UInt8.toNat_ofNat', UInt8.toNat_ofNat']
  omega

theorem complete (r : TlsRecord) : CompleteRecord r.bytes := by
  refine ⟨?_, ?_⟩
  · rw [r.bytes_length]
    omega
  · rw [r.bytes_length, r.length_field]

/-- the content type and the version of `record`, with minor version 4 under `mod_minor_ver` -/
structure Like (modMinorVer : Bool) (record : Bytes) (r : TlsRecord) : Prop where
  contentType : r.contentType = record.getD 0 0
  major : r.major = record.getD 1 0
  minor : r.minor = if modMinorVer then 0x04 else record.getD 2 0

end TlsRecord

/-- `frag` is at most `n` records like `record`, whose payloads make up its payload -/
def Preserves (modMinorVer : Bool) (n : Int) (record frag : Bytes) : Prop :=
  ∃ rs : List TlsRecord, (rs.length : Int) ≤ n ∧ (∀ r ∈ rs, r.Like modMinorVer record) ∧
    rs.flatMap TlsRecord.payload = record.drop 5 ∧ frag = rs.flatMap TlsRecord.bytes

/-! ## records and parts -/

section
variable {m : Bool} {record frag : Bytes} {n : Int}

theorem sentHeader_eq (m : Bool) (h : 3 ≤ record.length) : sentHeader m record =
    [record.getD 0 0, record.getD 1 0, if m then 0x04 else record.getD 2 0] := by
  rcases record with _ | ⟨a, _ | ⟨b, _ | ⟨c, rest⟩⟩⟩
  · simp at h
  · simp at h
  · simp at h
  · cases m with
    | true => rfl
    | false => rfl

def recordOf (m : Bool) (record part : Bytes) (h : part ≠ [] ∧ part.length < 65536) : TlsRecord where
  contentType := record.getD 0 0
  major := record.getD 1 0
  minor := if m then 0x04 else record.getD 2 0
  payload := part
  nonempty := h.1
  fits := h.2

theorem recordOf_bytes (h3 : 3 ≤ record.length) (part : Bytes) (h : part ≠ [] ∧ part.length < 65536) :
    (recordOf m record part h).bytes = makeRecord (sentHeader m record) part := by
  rw [sentHeader_eq m h3]
  rfl

theorem TlsRecord.Like.bytes_eq {r : TlsRecord} (h3 : 3 ≤ record.length) (h : r.Like m record) :
    r.bytes = makeRecord (sentHeader m record) r.payload := by
  rw [sentHeader_eq m h3, ← h.contentType, ← h.major, ← h.minor]
  rfl

theorem preserves_of_parts (hd : CompleteRecord record) (parts : List Bytes)
    (hn : (parts.length : Int) ≤ n) (hne : ∀ p ∈ parts, p ≠ []) (hflat : parts.flatten = record.drop 5)
    (hfrag : frag = (parts.map (makeRecord (sentHeader m record))).flatten) :
    Preserves m n record frag := by
  obtain ⟨h5, hlen⟩ := hd
  have hsize : record.length - 5 < 65536 := by
    have hlt : u16At record 3 < 65536 := u16At_lt record 3
    omega
  have hparts : ∀ p ∈ parts, p ≠ [] ∧ p.length < 65536 := by
    intro p hp
    have hle := (List.sublist_flatten_of_mem hp).length_le
    rw [hflat, List.length_drop] at hle
    exact ⟨hne p hp, by omega⟩
  refine ⟨parts.pmap (recordOf m record) hparts, ?_, ?_, ?_, ?_⟩
  · rwa [List.length_pmap]
  · intro r hr
    obtain ⟨p, hp, rfl⟩ := List.mem_pmap.mp hr
    exact ⟨rfl, rfl, rfl⟩
  · rw [← hflat, List.flatMap_def, List.map_pmap]
    exact congrArg List.flatten (List.pmap_eq_map (f := fun p => p) hparts |>.trans (List.map_id _))
  · rw [hfrag, List.flatMap_def, List.map_pmap]
    refine congrArg List.flatten ?_
    rw [← List.pmap_eq_map hparts]
    refine List.pmap_congr_left _ fun p _ _ h => ?_
    exact (recordOf_bytes (by omega) p h).symm

/-- the payload decides the parts -/
theorem not_preserves_of_parts (hd : CompleteRecord record) (parts : List Bytes)
    (hflat : parts.flatten ≠ record.drop 5) (hsize : ∀ p ∈ parts, p.length < 65536)
    (hfrag : frag = (parts.map (makeRecord (sentHeader m record))).flatten) :
    ¬ Preserves m n record frag := by
  rintro ⟨rs, -, hlike, hpay, hbytes⟩
  have h5 : 3 ≤ record.length := by have := hd.1; omega
  have hmap : rs.flatMap TlsRecord.bytes =
      ((rs.map TlsRecord.payload).map (makeRecord (sentHeader m record))).flatten := by
    rw [List.flatMap_def, List.map_map]
    exact congrArg List.flatten (List.map_congr_left fun r hr => (hlike r hr).bytes_eq h5)
  have hparts : rs.map TlsRecord.payload = parts := by
    refine records_inj (sentHeader_length m h5) (sentHeader_length m h5) _ _ ?_ hsize ?_
    · intro p hp
      obtain ⟨r, -, rfl⟩ := List.mem_map.mp hp
      exact r.fits
    · rw [← hmap, ← hbytes, hfrag]
  apply hflat
  rw [← hparts]
  exact hpay

/-! ## one by one -/

theorem sendChunks_plain (c : Bytes) (cs : List Bytes) :
    Sends (sendChunks false false 0 (c :: cs)) (cs.map .data) () := by
  obtain ⟨ws, hws, -, hdata⟩ := sendChunks_tail false false cs 1 le_rfl
  rw [hdata rfl] at hws
  exact (Sends.pure ()).bind hws

theorem inBand_data (bs : List Bytes) : inBand (bs.map .data) = bs.flatten := by
  apply inBand_of_parts
  rw [List.map_map]
  exact List.map_id bs

/-! ## when the record is preserved -/

/-- several records that are sent one by one without an urgent byte -/
def FirstLost (record : Bytes) (h : Hello) (records segments : Int) (oob : Bool) : Prop :=
  2 ≤ records ∧ segments = -1 ∧ oob = false ∧ NameInside record h

section
variable {h : Hello} {records segments : Int}

theorem one_preserved (hd : CompleteRecord record) (h47 : 47 ≤ record.length) {ws : List Wire}
    (hb : carried false ws = sentRecord m record) : Preserves m 1 record (inBand ws) := by
  rw [carried_false] at hb
  refine preserves_of_parts hd [record.drop 5] le_rfl ?_ (List.flatten_singleton) ?_
  · intro p hp
    rw [List.mem_singleton.mp hp]
    exact List.ne_nil_of_length_pos (by rw [List.length_drop]; omega)
  · rw [hb, List.map_singleton, List.flatten_singleton, ← sentRecord_drop m record]
    exact (makeRecord_self (hd.setMinor m)).symm

theorem tail_lost (hd : CompleteRecord record) {c : Bytes} {cs : List Bytes} (hc : c ≠ [])
    (hflat : (c :: cs).flatten = record.drop 5) :
    ¬ Preserves m n record (inBand ((cs.map (makeRecord (sentHeader m record))).map .data)) := by
  have hlen := congrArg List.length hflat
  rw [List.flatten_cons, List.length_append, List.length_drop] at hlen
  have hpos := List.length_pos_of_ne_nil hc
  refine not_preserves_of_parts hd cs ?_ ?_ (inBand_data _)
  · intro he
    rw [he, List.length_drop] at hlen
    omega
  · intro p hp
    have hle := (List.sublist_flatten_of_mem hp).length_le
    obtain ⟨h5, hrec⟩ := hd
    have hlt : u16At record 3 < 65536 := u16At_lt record 3
    omega

/-- **Everything that `sendRecords` sends preserves the record, unless its first part is lost**: for
every complete record with a name, and all counts that a policy admits. -/
theorem records_preserved_iff (hp : parseClientHello record = .ok h) (hd : CompleteRecord record)
    (hname : 0 < h.sniLen) (hr : 1 ≤ records) (hs : 1 ≤ segments ∨ segments = -1) (oob m : Bool) :
    Returning (sendRecords record h.sniPos h.sniLen records segments oob false m)
        (fun ws => Preserves m records record (inBand ws)) ↔
      ¬ FirstLost record h records segments oob := by
  obtain ⟨h47, -, hsni⟩ := parseClientHello_spec hp
  have hpos : 58 ≤ h.sniPos ∧ h.sniPos + h.sniLen ≤ record.length := by
    unfold SniIn at hsni
    omega
  by_cases hin : h.sniPos + h.sniLen < record.length
  · have hc : Cuttable record h.sniPos h.sniLen := ⟨hpos.1, hin⟩
    by_cases h1 : records = 1
    · subst h1
      refine iff_of_true ?_ fun hl => absurd hl.1 (by decide)
      rcases hs with hs | rfl
      · obtain ⟨ws, hws, hb⟩ := sendRecords_one oob false m h47 hs (.inr hc)
        exact hws.returning_iff.mpr (one_preserved hd h47 hb)
      · exact (sendRecords_one_crash oob false m h47 (.inl (by decide))).returning _
    have h2 : 2 ≤ records := by omega
    obtain ⟨c, cs, hch, hflat, hne, hle⟩ := makeChunks_parts (m := m) h2 hc
    rcases hs with hs | rfl
    · -- merged and sent in segments
      have hfl := flatten_makeRecord_length (sentHeader m record) (c :: cs)
      rw [hflat, List.length_drop] at hfl
      obtain ⟨ws, hws, hb⟩ := sendRecords_merged oob false m h47 h2 hs hch (by rw [hfl]; omega)
      rw [carried_false] at hb
      refine iff_of_true (hws.returning_iff.mpr ?_) fun hl => ?_
      · exact preserves_of_parts hd _ hle hne hflat hb
      · have := hl.2.1
        omega
    cases oob with
    | true =>
      obtain ⟨ws, hws, hb⟩ := sendChunks_oob false (makeRecord (sentHeader m record) c)
        (cs.map (makeRecord (sentHeader m record)))
      refine iff_of_true ((sendRecords_single true false m h47 h2 hch hws).returning_iff.mpr ?_)
        fun hl => absurd hl.2.2.1 (by decide)
      exact preserves_of_parts hd _ hle hne hflat hb
    | false =>
      have hws := sendRecords_single false false m h47 h2 hch (sendChunks_plain _ _)
      refine iff_of_false (fun hx => ?_) fun hno => hno ⟨h2, rfl, rfl, by omega, hin⟩
      exact tail_lost hd (hne c List.mem_cons_self) hflat (hws.returning_iff.mp hx)
  · -- the name ends the record: it is sent whole, or the cut panics
    refine iff_of_true ?_ fun hl => hin hl.2.2.2.2
    by_cases h1 : records = 1
    · subst h1
      by_cases hs1 : segments = 1
      · subst hs1
        obtain ⟨ws, hws, hb⟩ := sendRecords_one (o := h.sniPos) (l := h.sniLen) oob false m h47 le_rfl
          (.inl rfl)
        exact hws.returning_iff.mpr (one_preserved hd h47 hb)
      · exact (sendRecords_one_crash oob false m h47 (.inr (by omega))).returning _
    · exact (sendRecords_chunks_crash oob false m h47 h1 (.inr (by omega))).returning _

end
end

theorem sampleHello_complete : CompleteRecord sampleHello := ⟨by decide +kernel, by decide +kernel⟩

/-- two records in three segments, with the changed version -/
theorem records_preserved_sample :
    Returning (sendRecords sampleHello 61 3 2 3 false false true)
      (fun ws => Preserves true 2 sampleHello (inBand ws)) :=
  (records_preserved_iff (h := ⟨[3, 3], 61, 3, true⟩) (by decide +kernel) sampleHello_complete
    (by decide) (by decide) (.inl (by decide)) false true).mpr fun hl => absurd hl.2.1 (by decide)

/-- two records one by one: the call returns, and only the second one was sent -/
theorem records_lost :
    parseClientHello sampleHello = .ok ⟨[3, 3], 61, 3, true⟩ ∧
    (sendRecords sampleHello 61 3 2 (-1) false false false {}).1 = .ok () ∧
    (sendRecords sampleHello 61 3 2 (-1) false false false {}).2.sent =
      [.data ([0x16, 3, 1, 0, 6] ++ sampleHello.drop 62)] ∧
    ¬ Preserves false 2 sampleHello
      (inBand (sendRecords sampleHello 61 3 2 (-1) false false false {}).2.sent) := by
  have hsent : (sendRecords sampleHello 61 3 2 (-1) false false false {}).2.sent =
      ([sampleHello.drop 62].map (makeRecord (sentHeader false sampleHello))).map .data := by
    decide +kernel
  refine ⟨by decide +kernel, by decide +kernel, by decide +kernel, ?_⟩
  rw [hsent]
  exact tail_lost sampleHello_complete (c := (sampleHello.take 62).drop 5) (by decide +kernel)
    (by decide +kernel)

end Bill
