import BillVpn.Tls.Lossy

/-!
# The server name is split

`sendRecords` is there to keep the server name out of any single record, or any single packet.  It
does so if the cut lies inside the name; `findLastDot` also looks at the byte behind the name.

* `NoneCovers`             no part of a sequence holds all bytes of an interval;
* `findLastDot_inside`, `findLastDot_behind`   where the cut is;
* `name_split_iff`         **the name is split exactly when no dot follows it.**
-/

set_option linter.unusedVariables false

namespace Bill
open Go Res Proc Conn

/-! ## parts and an interval -/

/-- none of the parts, the first of which starts at `start`, holds all of `[lo, hi)` -/
def NoneCovers (lo hi : Nat) : Nat → List Bytes → Prop
  | _, [] => True
  | start, p :: ps => ¬ (start ≤ lo ∧ hi ≤ start + p.length) ∧ NoneCovers lo hi (start + p.length) ps

section
variable {lo hi start : Nat} {ps qs : List Bytes}

theorem noneCovers_append : NoneCovers lo hi start (ps ++ qs) ↔
    NoneCovers lo hi start ps ∧ NoneCovers lo hi (start + ps.flatten.length) qs := by
  induction ps generalizing start with
  | nil => exact ⟨fun h => ⟨trivial, h⟩, fun h => h.2⟩
  | cons p ps ih =>
    have hstart : start + (p :: ps).flatten.length = start + p.length + ps.flatten.length := by
      rw [List.flatten_cons, List.length_append]
      omega
    show _ ∧ NoneCovers lo hi (start + p.length) (ps ++ qs) ↔ (_ ∧ _) ∧ _
    rw [ih, hstart, and_assoc]

theorem noneCovers_before (h : start + ps.flatten.length < hi) : NoneCovers lo hi start ps := by
  induction ps generalizing start with
  | nil => trivial
  | cons p ps ih =>
    rw [List.flatten_cons, List.length_append] at h
    exact ⟨by omega, ih (by omega)⟩

theorem noneCovers_after (h : lo < start) : NoneCovers lo hi start ps := by
  induction ps generalizing start with
  | nil => trivial
  | cons p ps ih => exact ⟨by omega, ih (by omega)⟩

theorem noneCovers_cut (hlo : lo < start + ps.flatten.length) (hhi : start + ps.flatten.length < hi) :
    NoneCovers lo hi start (ps ++ qs) :=
  noneCovers_append.mpr ⟨noneCovers_before hhi, noneCovers_after hlo⟩

end

/-! ## the cut -/

section
variable {data : Bytes} {n l : Nat}

theorem idx_ne_of_getElem? {i : Nat} (hi : i < data.length) {c : UInt8} (h : data[i]? ≠ some c) :
    ∃ b, idx data ↑i = .ok b ∧ b ≠ c := by
  refine ⟨data[i], idx_nat hi, fun hb => h ?_⟩
  rw [List.getElem?_eq_getElem hi, hb]

theorem lastDotLoop_inside (h2 : 2 ≤ l) (hlen : n + l < data.length)
    (hfirst : data[n]? ≠ some dotByte) (k : Nat) (hk : k < l) :
    ∃ (cut : Nat) (found : Bool), lastDotLoop data ↑n l k = .ok (↑cut, found) ∧
      n < cut ∧ cut < n + l := by
  induction k with
  | zero =>
    obtain ⟨b, hb, hne⟩ := idx_ne_of_getElem? (show n < data.length by omega) hfirst
    refine ⟨l / 2 + n, false, ?_, by omega, by omega⟩
    rw [lastDotLoop, hb, bind_ok, if_neg hne]
    rfl
  | succ k ih =>
    obtain ⟨b, hb⟩ := idx_ok_of_lt (d := data) (i := ↑n + ↑(k + 1)) (by omega) (by omega)
    by_cases hd : b = dotByte
    · refine ⟨n + (k + 1), true, ?_, by omega, by omega⟩
      rw [lastDotLoop, hb, bind_ok, if_pos hd]
      rfl
    · obtain ⟨cut, found, hrun, hlo, hhi⟩ := ih (by omega)
      refine ⟨cut, found, ?_, hlo, hhi⟩
      rw [lastDotLoop, hb, bind_ok, if_neg hd, hrun]

theorem findLastDot_inside (h2 : 2 ≤ l) (hlen : n + l < data.length)
    (hfirst : data[n]? ≠ some dotByte) (hnext : data[n + l]? ≠ some dotByte) :
    ∃ (cut : Nat) (found : Bool), findLastDot data ↑n l = .ok (↑cut, found) ∧
      n < cut ∧ cut < n + l := by
  obtain ⟨k, rfl⟩ : ∃ k, l = k + 1 := ⟨l - 1, by omega⟩
  obtain ⟨b, hb, hne⟩ := idx_ne_of_getElem? hlen hnext
  obtain ⟨cut, found, hrun, hin⟩ := lastDotLoop_inside h2 hlen hfirst k (by omega)
  refine ⟨cut, found, ?_, hin⟩
  unfold findLastDot lastDotLoop
  rw [show (n : Int) + ↑(k + 1) = ↑(n + (k + 1)) from rfl, hb, bind_ok, if_neg hne, hrun]

theorem findLastDot_behind (hlen : n + l < data.length) (hnext : data[n + l]? = some dotByte) :
    findLastDot data ↑n l = .ok (↑(n + l), true) := by
  have hb : idx data ↑(n + l) = .ok dotByte := by
    rw [idx_nat hlen]
    rw [List.getElem?_eq_getElem hlen] at hnext
    exact congrArg Res.ok (Option.some.inj hnext)
  unfold findLastDot
  cases l with
  | zero =>
    rw [lastDotLoop, show idx data (n : Int) = .ok dotByte from hb]
    rfl
  | succ k =>
    rw [lastDotLoop, show (n : Int) + ↑(k + 1) = ↑(n + (k + 1)) from rfl, hb]
    rfl

end

/-! ## what goes out -/

inductive CarriedBy : Wire → Bytes → Prop where
  | plain (w : Wire) : CarriedBy w w.bytes
  | urgent (a : Bytes) (u : UInt8) : CarriedBy (.oob a u) (a ++ [u])

/-- the calls carry `record` piece by piece, and none of them carries all of the name -/
def PacketsSplit (lo hi : Nat) (record : Bytes) (ws : List Wire) : Prop :=
  ∃ ps, List.Forall₂ CarriedBy ws ps ∧ ps.flatten = record ∧ NoneCovers lo hi 0 ps

/-- what goes out are records with consecutive parts of the payload, perhaps without the first of
them, or not to the end; and none of the parts holds all of the name -/
def RecordsSplit (lo hi : Nat) (modMinorVer : Bool) (record : Bytes) (ws : List Wire) : Prop :=
  ∃ parts k b, parts.flatten = record.drop 5 ∧ NoneCovers lo hi 5 parts ∧ Reads ws b ∧
    b <+: ((parts.drop k).map (makeRecord (sentHeader modMinorVer record))).flatten

theorem carriedBy_bytes (ws : List Wire) : List.Forall₂ CarriedBy ws (ws.map Wire.bytes) := by
  induction ws with
  | nil => exact .nil
  | cons w ws ih => exact .cons (.plain w) ih

section
variable {d : Bytes} {o : Int} {l : Nat} {records segments : Int} {lo hi : Nat}

theorem reads_oobEx (h35 : 35 ≤ d.length) : Reads (oobExWires d) (d.take 35) := by
  have hcut : 35 ≤ (d.take 35).length := by rw [List.length_take]; omega
  have hrest : inBand [] = (d.take 35).drop 35 := by rw [List.drop_take]; rfl
  have hb := carried_oobEx hcut hrest
  have h15 : (d.take 35).getD 15 0 = d.getD 15 0 := by
    rw [List.getD_eq_getElem?_getD, List.getElem?_take_of_lt (by omega), List.getD_eq_getElem?_getD]
  rw [List.append_nil, List.take_take, List.take_take, h15] at hb
  have hr := reads_carried true (oobExWires d)
  rwa [show carried true (oobExWires d) = d.take 35 from hb] at hr

/-- whatever the counts, a call that returns has sent records from the front or from the second -/
theorem sendRecords_stream (segments : Int) (oob oobex m : Bool) (h47 : 47 ≤ d.length) (hr : 2 ≤ records)
    {c : Bytes} {cs : List Bytes} (hch : makeChunks (sentRecord m d) o l records = .ok (c :: cs))
    (hc : c ≠ []) (h35 : 36 ≤ (c :: cs).flatten.length) :
    Crashes (sendRecords d o l records segments oob oobex m) ∨
      ∃ ws k b, Sends (sendRecords d o l records segments oob oobex m) ws () ∧ Reads ws b ∧
        b <+: ((c :: cs).drop k).flatten := by
  have hset := setMinorVer_eq m (show 3 ≤ d.length by omega)
  by_cases hs : 1 ≤ segments
  · obtain ⟨ws, hws, hb⟩ := sendRecords_merged oob oobex m h47 hr hs hch (by omega)
    exact .inr ⟨ws, 0, _, hws, reads_carried oobex ws, by rw [hb]; exact List.prefix_rfl⟩
  by_cases hneg : segments = -1
  · subst hneg
    by_cases hx : oob = true ∨ oobex = true
    · obtain ⟨ws, hws, hreads⟩ := sendChunks_reads hx hc cs
      exact .inr ⟨ws, 0, _, sendRecords_single oob oobex m h47 hr hch hws, hreads, List.prefix_rfl⟩
    · simp only [not_or, Bool.not_eq_true] at hx
      obtain ⟨rfl, rfl⟩ := hx
      obtain ⟨ws, hws, hb, -⟩ := sendChunks_tail false false cs 1 le_rfl
      refine .inr ⟨ws, 1, inBand ws, sendRecords_single _ _ m h47 hr hch ((Sends.pure ()).bind hws),
        reads_inBand ws, ?_⟩
      rw [hb]
      exact List.prefix_rfl
  -- no segments: the division panics, or the range is empty
  have hcap : makeCap (records * 5 + ((sentRecord m d).length : Int)) = .ok () := by
    rw [makeCap, if_pos (by omega)]
  have hsend : ∀ ws, Sends (if oobex then do
        let rest ← sendOobEx (c :: cs).flatten
        sendMerged rest segments oob
      else sendMerged (c :: cs).flatten segments oob) ws () →
      Sends (sendRecords d o l records segments oob oobex m) ws () := by
    intro ws hws
    refine Sends.lift_bind hset ?_
    rw [if_neg (by omega)]
    refine Sends.lift_bind hch ?_
    rw [if_neg hneg]
    exact Sends.lift_bind hcap hws
  by_cases hz : segments = 0
  · subst hz
    refine .inl (Crashes.bind (Sends.lift hset) ?_)
    rw [if_neg (by omega)]
    refine Crashes.bind (Sends.lift hch) ?_
    rw [if_neg (by decide)]
    refine Crashes.bind (Sends.lift hcap) ?_
    cases oobex with
    | true =>
      refine Crashes.bind (sendOobEx_sends (by omega)) (sendMerged_zero ?_ oob)
      exact List.ne_nil_of_length_pos (by rw [List.length_drop]; omega)
    | false =>
      refine sendMerged_zero ?_ oob
      exact List.ne_nil_of_length_pos (by omega)
  · cases oobex with
    | true =>
      refine .inr ⟨_, 0, _, hsend _ ((sendOobEx_sends (by omega)).bind
        (sendMerged_none _ (by omega) oob)), ?_, List.take_prefix 35 _⟩
      rw [List.append_nil]
      exact reads_oobEx (by omega)
    | false => exact .inr ⟨[], 0, [], hsend [] (sendMerged_none _ (by omega) oob), .nil, List.nil_prefix⟩

theorem records_split (oob oobex m : Bool) (h47 : 47 ≤ d.length) (hr : 2 ≤ records) {cut : Nat}
    {found : Bool} (hcut : findLastDot (sentRecord m d) o l = .ok (↑cut, found)) (h5 : 5 < cut)
    (hlen : cut < d.length) (hlo : lo < cut) (hhi : cut < hi) :
    Returning (sendRecords d o l records segments oob oobex m) (RecordsSplit lo hi m d) := by
  have hlen' : cut < (sentRecord m d).length := by rwa [sentRecord_length]
  have hch := makeChunks_even hr hcut h5.le hlen'.le
  have hflat := (chunkParts_flatten hr h5.le hlen'.le).trans (sentRecord_drop m d)
  have h2 := (chunkParts_length (sentRecord m d) cut hr).1
  have hnone : NoneCovers lo hi 5 (chunkParts (sentRecord m d) cut records) := by
    have hleft : (evenParts ((List.take cut (sentRecord m d)).drop 5) (records.tdiv 2)).flatten.length =
        cut - 5 := by
      rw [evenParts_flatten _ (tdiv_two_pos hr).1, List.length_drop, List.length_take]
      omega
    exact noneCovers_cut (by rw [hleft]; omega) (by rw [hleft]; omega)
  have hsize := flatten_makeRecord_length ((sentRecord m d).take 3)
    (chunkParts (sentRecord m d) cut records)
  rw [hflat, List.length_drop] at hsize
  cases hparts : chunkParts (sentRecord m d) cut records with
  | nil =>
    rw [hparts] at h2
    simp at h2
  | cons c cs =>
    rw [hparts] at hch hsize
    rcases sendRecords_stream segments oob oobex m h47 hr hch (makeRecord_ne_nil _ c)
      (by rw [← List.map_cons, hsize]; omega) with hx | ⟨ws, k, b, hws, hb, hpre⟩
    · exact hx.returning _
    · refine hws.returning_iff.mpr ⟨c :: cs, k, b, by rw [← hparts]; exact hflat,
        by rw [← hparts]; exact hnone, hb, ?_⟩
      rw [List.map_drop]
      exact hpre

theorem oneRecord_split {start cut : Nat} {found : Bool} (oob : Bool) (hs : 2 ≤ segments)
    (hcut : findLastDot d o l = .ok (↑cut, found)) (hlen : cut ≤ d.length) (hlo : lo < start + cut)
    (hhi : start + cut < hi) :
    ∃ ws ps, Sends (sendOneRecord d o l segments oob) ws () ∧ List.Forall₂ CarriedBy ws ps ∧
      ps.flatten = d ∧ NoneCovers lo hi start ps := by
  have hhalf := tdiv_two_pos hs
  obtain ⟨ws, hws, hb⟩ := sendOneRecord_parts oob hs hcut hlen
  have hleft : (evenParts (d.take cut) (segments.tdiv 2)).flatten.length = cut := by
    rw [evenParts_flatten _ hhalf.1, List.length_take]
    omega
  refine ⟨ws, _, hws, carriedBy_bytes ws, ?_, ?_⟩
  · rw [hb, List.flatten_append, evenParts_flatten _ hhalf.1, evenParts_flatten _ hhalf.2,
      List.take_append_drop]
  · rw [hb]
    exact noneCovers_cut (by rw [hleft]; omega) (by rw [hleft]; omega)

/-- one record in several packets; `oob_ex` sends the first 35 bytes apart -/
theorem packets_split (oob oobex m : Bool) (h47 : 47 ≤ d.length) (hs : 2 ≤ segments)
    (hinside : ∀ k : Nat, (k = 0 ∨ k = 35) → ∃ (cut : Nat) (found : Bool),
      findLastDot ((sentRecord m d).drop k) (o - k) l = .ok (↑cut, found) ∧
        k + cut ≤ d.length ∧ lo < k + cut ∧ k + cut < hi) (h35 : 35 < hi) :
    Returning (sendRecords d o l 1 segments oob oobex m) (PacketsSplit lo hi (sentRecord m d)) := by
  have hset : setMinorVer m d = .ok (sentRecord m d) := setMinorVer_eq m (by omega)
  have hlen := sentRecord_length m d
  cases oobex with
  | false =>
    obtain ⟨cut, found, hcut, hle, hlo, hhi⟩ := hinside 0 (.inl rfl)
    rw [List.drop_zero, Nat.cast_zero, sub_zero] at hcut
    obtain ⟨ws, ps, hws, hcar, hflat, hnone⟩ := oneRecord_split oob hs hcut (by omega) hlo hhi
    have hrun : Sends (sendRecords d o l 1 segments oob false m) ws () :=
      Sends.lift_bind hset hws
    exact hrun.returning_iff.mpr ⟨ps, hcar, hflat, hnone⟩
  | true =>
    obtain ⟨cut, found, hcut, hle, hlo, hhi⟩ := hinside 35 (.inr rfl)
    obtain ⟨ws, ps, hws, hcar, hflat, hnone⟩ :=
      oneRecord_split oob hs hcut (by rw [List.length_drop]; omega) hlo hhi
    have hrun : Sends (sendRecords d o l 1 segments oob true m) (oobExWires (sentRecord m d) ++ ws) () :=
      Sends.lift_bind hset ((sendOobEx_sends (by omega)).bind hws)
    refine hrun.returning_iff.mpr ⟨((sentRecord m d).take 15 ++ [(sentRecord m d).getD 15 0]) ::
      ((sentRecord m d).take 35).drop 16 :: ps, .cons (.urgent _ _) (.cons (.plain _) hcar), ?_, ?_⟩
    · have hrest : inBand [.data ps.flatten] = (sentRecord m d).drop 35 := by
        rw [inBand_cons, inBand_nil, List.append_nil]
        exact hflat
      have hb := carried_oobEx (by omega) hrest
      refine Eq.trans ?_ hb
      simp [carried, inBand_cons, Wire.bytes]
    · have h1 : ((sentRecord m d).take 15 ++ [(sentRecord m d).getD 15 0]).length = 16 := by
        rw [List.length_append, List.length_take, List.length_singleton]
        omega
      have h2 : (((sentRecord m d).take 35).drop 16).length = 19 := by
        rw [List.length_drop, List.length_take]
        omega
      refine ⟨by rw [h1]; omega, by rw [h1, h2]; omega, ?_⟩
      rw [h1, h2]
      exact hnone

end

/-! ## names -/

/-- the version does not touch the name, and the cut moves with what is taken off the front -/
theorem sent_cut_inside {record : Bytes} {n l k : Nat} (m : Bool) (h58 : 58 ≤ n) (h2 : 2 ≤ l)
    (hin : n + l < record.length) (hfirst : record[n]? ≠ some dotByte)
    (hnext : record[n + l]? ≠ some dotByte) (hk : k ≤ n) :
    ∃ (cut : Nat) (found : Bool),
      findLastDot ((sentRecord m record).drop k) (↑n - ↑k) l = .ok (↑cut, found) ∧
        n < k + cut ∧ k + cut < n + l := by
  have hbyte : ∀ i, n ≤ i → ((sentRecord m record).drop k)[i - k]? = record[i]? := by
    intro i hi
    rw [List.getElem?_drop, show k + (i - k) = i by omega]
    cases m with
    | false => rfl
    | true => exact List.getElem?_set_ne (by omega)
  have hfirst' : ((sentRecord m record).drop k)[n - k]? ≠ some dotByte := by
    rw [hbyte n le_rfl]
    exact hfirst
  have hnext' : ((sentRecord m record).drop k)[n - k + l]? ≠ some dotByte := by
    rw [show n - k + l = n + l - k by omega, hbyte (n + l) (by omega)]
    exact hnext
  have hlen : n - k + l < ((sentRecord m record).drop k).length := by
    rw [List.length_drop, sentRecord_length]
    omega
  obtain ⟨cut, found, hcut, hlo, hhi⟩ := findLastDot_inside h2 hlen hfirst' hnext'
  rw [show ((n - k : Nat) : Int) = ↑n - ↑k by omega] at hcut
  exact ⟨cut, found, hcut, by omega, by omega⟩

def CutInside (record : Bytes) (h : Hello) : Prop :=
  ∀ cut found, findLastDot record h.sniPos h.sniLen = .ok (cut, found) →
    h.sniPos < cut ∧ cut < h.sniPos + h.sniLen

/-- **The name is split exactly when no dot follows it**: for every accepted record with a name of two
bytes or more that does not start with a dot, and whatever the counts and the flags. -/
theorem name_split_iff {record : Bytes} {h : Hello} (hp : parseClientHello record = .ok h)
    (h2 : 2 ≤ h.sniLen) (hfirst : record[h.sniPos.toNat]? ≠ some dotByte) :
    (CutInside record h ∧
      (∀ records segments oob oobex m, 2 ≤ records →
        Returning (sendRecords record h.sniPos h.sniLen records segments oob oobex m)
          (RecordsSplit h.sniPos.toNat (h.sniPos.toNat + h.sniLen) m record)) ∧
      ∀ segments oob oobex m, 2 ≤ segments →
        Returning (sendRecords record h.sniPos h.sniLen 1 segments oob oobex m)
          (PacketsSplit h.sniPos.toNat (h.sniPos.toNat + h.sniLen) (sentRecord m record))) ↔
    record[h.sniPos.toNat + h.sniLen]? ≠ some dotByte := by
  obtain ⟨h47, -, hsni⟩ := parseClientHello_spec hp
  obtain ⟨n, hn⟩ : ∃ n : Nat, h.sniPos = n := ⟨h.sniPos.toNat, by unfold SniIn at hsni; omega⟩
  have hbounds : 58 ≤ n ∧ n + h.sniLen ≤ record.length := by
    unfold SniIn at hsni
    omega
  rw [hn, Int.toNat_natCast] at hfirst ⊢
  constructor
  · rintro ⟨hcut, -, -⟩ hnext
    have hin : n + h.sniLen < record.length := (List.getElem?_eq_some_iff.mp hnext).1
    have hb := findLastDot_behind hin hnext
    rw [← hn] at hb
    have hlt := (hcut _ _ hb).2
    rw [hn] at hlt
    omega
  intro hnext
  by_cases hin : n + h.sniLen < record.length
  · -- the cut is the same for the record as it is sent, and for what is left of it
    have hinside := fun m k hk => sent_cut_inside m hbounds.1 h2 hin hfirst hnext (k := k) hk
    refine ⟨?_, ?_, ?_⟩
    · intro cut found hcut
      obtain ⟨cut', found', hcut', hlo, hhi⟩ := hinside false 0 (by omega)
      rw [List.drop_zero, Nat.cast_zero, sub_zero, show sentRecord false record = record from rfl,
        ← hn, hcut] at hcut'
      obtain ⟨rfl, -⟩ := Prod.mk.inj (ok.inj hcut')
      omega
    · intro records segments oob oobex m hr
      obtain ⟨cut, found, hcut, hlo, hhi⟩ := hinside m 0 (by omega)
      rw [List.drop_zero, Nat.cast_zero, sub_zero] at hcut
      exact records_split oob oobex m h47 hr hcut (by omega) (by omega) (by omega) (by omega)
    · intro segments oob oobex m hs
      refine packets_split oob oobex m h47 hs (fun k hk => ?_) (by omega)
      obtain ⟨cut, found, hcut, hlo, hhi⟩ := hinside m k (by omega)
      exact ⟨cut, found, hcut, by omega, by omega, by omega⟩
  · -- the name ends the record: there is no cut
    have hpanic : (record.length : Int) ≤ ↑n + h.sniLen := by omega
    refine ⟨?_, ?_, ?_⟩
    · intro cut found hcut
      rw [hn, findLastDot_panic (.inr hpanic)] at hcut
      cases hcut
    · intro records segments oob oobex m hr
      exact (sendRecords_chunks_crash oob oobex m h47 (by omega) (.inr hpanic)).returning _
    · intro segments oob oobex m hs
      exact (sendRecords_one_crash oob oobex m h47 (.inr ⟨by omega, hpanic⟩)).returning _

theorem name_split_sample : Returning (sendRecords sampleHello 61 3 2 1 false false false)
    (RecordsSplit 61 64 false sampleHello) :=
  ((name_split_iff (h := ⟨[3, 3], 61, 3, true⟩) (by decide +kernel) (by decide)
    (by decide +kernel)).mpr (by decide +kernel)).2.1 2 1 false false false (by decide)

/-- a ClientHello for the name `a.b`, with an extension of type `0x2e00` behind it -/
def dotHello : Bytes :=
  [0x16, 3, 1, 0, 67, 1, 0, 0, 63, 3, 3] ++ List.replicate 32 0 ++
    [0, 0, 2, 0x13, 1, 1, 0, 0, 20, 0, 0, 0, 8, 0, 6, 0, 0, 3, 97, 46, 98, 0x2e, 0, 0, 0,
      0, 0x33, 0, 0]

/-- the cut is behind the name: the first record, and the first packet, have all of it -/
theorem name_not_split :
    parseClientHello dotHello = .ok ⟨[3, 3], 61, 3, true⟩ ∧
    findLastDot dotHello 61 3 = .ok (64, true) ∧
    sendRecords dotHello 61 3 2 1 false false false {} = (.ok (), ({} : Upstream).push (.data
      (makeRecord [0x16, 3, 1] ((dotHello.take 64).drop 5) ++
        makeRecord [0x16, 3, 1] (dotHello.drop 64)))) ∧
    sendRecords dotHello 61 3 1 2 false false false {} =
      (.ok (), (({} : Upstream).push (.data (dotHello.take 64))).push (.data (dotHello.drop 64))) := by
  refine ⟨by decide +kernel, by decide +kernel, rfl, rfl⟩

end Bill
