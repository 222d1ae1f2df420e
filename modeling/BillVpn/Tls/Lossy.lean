import BillVpn.Tls.CallSites

/-!
# Counts that lose the record

`sendRecords` returns without an error for some counts although it has not sent the whole record.

* `Conveys record ws`     read with or without their urgent bytes, the sends are records with the
                          payload of `record`;
* `Lossy`                 the counts that leave something out;
* `sendRecords_conveys`   with other counts a record is carried, or its sender panics;
* `sendRecords_loses`     with these it is not, wherever the name can be cut.
-/

set_option linter.unusedVariables false

namespace Bill
open Go Res Proc Conn

/-! ## what a receiver may read -/

/-- an urgent byte is read in line or not -/
inductive Reads : List Wire → Bytes → Prop where
  | nil : Reads [] []
  | plain (w : Wire) {ws : List Wire} {b : Bytes} (h : Reads ws b) : Reads (w :: ws) (w.bytes ++ b)
  | urgent (a : Bytes) (u : UInt8) {ws : List Wire} {b : Bytes} (h : Reads ws b) :
      Reads (.oob a u :: ws) (a ++ u :: b)

/-- records with the payload of `record` -/
def Conveys (record : Bytes) (ws : List Wire) : Prop :=
  ∃ modMinorVer b, Reads ws b ∧ Refragments modMinorVer record b

theorem reads_inBand (ws : List Wire) : Reads ws (inBand ws) := by
  induction ws with
  | nil => exact .nil
  | cons w ws ih => exact .plain w ih

theorem reads_carried (oobex : Bool) (ws : List Wire) : Reads ws (carried oobex ws) := by
  cases ws with
  | nil => exact .nil
  | cons w ws =>
    cases w with
    | oob a u =>
      cases oobex with
      | true => exact .urgent a u (reads_inBand ws)
      | false => exact .plain (.oob a u) (reads_inBand ws)
    | data a => exact .plain (.data a) (reads_inBand ws)
    | desync a p l t => exact .plain (.desync a p l t) (reads_inBand ws)

theorem Reads.length_le {ws : List Wire} {b : Bytes} (h : Reads ws b) :
    b.length ≤ (inBand ws).length + ws.length := by
  induction h with
  | nil => exact Nat.zero_le _
  | plain w h ih =>
    rw [inBand_cons, List.length_append, List.length_append, List.length_cons]
    omega
  | urgent a u h ih =>
    rw [inBand_cons, List.length_append, List.length_append, List.length_cons, List.length_cons]
    show a.length + _ ≤ a.length + _ + _
    omega

theorem Reads.data {bs : List Bytes} {b : Bytes} (h : Reads (bs.map .data) b) : b = bs.flatten := by
  induction bs generalizing b with
  | nil =>
    cases h
    rfl
  | cons x bs ih =>
    cases h with
    | plain w h => rw [ih h, List.flatten_cons]; rfl

theorem conveys_data {record : Bytes} (hd : CompleteRecord record) {w : Wire} (hw : w.bytes = record) :
    Conveys record [w] := by
  refine ⟨false, record, ?_, [record.drop 5], by simp, by simp, ?_⟩
  · have h := reads_inBand [w]
    rwa [inBand_cons, inBand_nil, List.append_nil, hw] at h
  · rw [List.map_singleton, List.flatten_singleton]
    exact (makeRecord_self hd).symm

/-! ## too little -/

theorem Refragments.length_le {m : Bool} {record b : Bytes} (h : Refragments m record b)
    (h5 : 5 ≤ record.length) : record.length ≤ b.length := by
  obtain ⟨parts, hne, hflat, rfl⟩ := h
  have hpos := List.length_pos_of_ne_nil hne
  rw [flatten_makeRecord_length, hflat, List.length_drop]
  omega

theorem not_conveys_short {record : Bytes} {ws : List Wire} (h5 : 5 ≤ record.length)
    (h : (inBand ws).length + ws.length < record.length) : ¬ Conveys record ws := by
  rintro ⟨m, b, hr, hf⟩
  have h1 := hr.length_le
  have h2 := hf.length_le h5
  omega

theorem makeRecord_inj {h h' p p' r r' : Bytes} (hh : h.length = 3) (hh' : h'.length = 3)
    (hp : p.length < 65536) (hp' : p'.length < 65536)
    (he : makeRecord h p ++ r = makeRecord h' p' ++ r') : p = p' ∧ r = r' := by
  unfold makeRecord at he
  have ht : ∀ x : Bytes, x.length = 3 → (x ++ [0, 0, 0]).take 3 = x := by
    intro x hx
    rw [← hx]
    exact List.take_left
  rw [ht h hh, ht h' hh'] at he
  simp only [List.append_assoc] at he
  obtain ⟨-, he⟩ := List.append_inj he (hh.trans hh'.symm)
  obtain ⟨hlen, he⟩ := List.append_inj he rfl
  simp only [List.cons.injEq, and_true] at hlen
  have h1 := congrArg UInt8.toNat hlen.1
  have h2 := congrArg UInt8.toNat hlen.2
  simp only [UInt8.toNat_ofNat'] at h1 h2
  exact List.append_inj he (by omega)

theorem records_inj {h h' : Bytes} (hh : h.length = 3) (hh' : h'.length = 3) (ps : List Bytes) :
    ∀ qs : List Bytes, (∀ p ∈ ps, p.length < 65536) → (∀ q ∈ qs, q.length < 65536) →
      (ps.map (makeRecord h)).flatten = (qs.map (makeRecord h')).flatten → ps = qs := by
  have hpos : ∀ (x p : Bytes) (l : List Bytes), ([] : Bytes) ≠ makeRecord x p ++ l.flatten := by
    intro x p l he
    have hl := congrArg List.length he
    rw [List.length_append, makeRecord_length] at hl
    simp at hl
    omega
  induction ps with
  | nil =>
    intro qs _ _ he
    cases qs with
    | nil => rfl
    | cons q qs => exact absurd he (hpos _ _ _)
  | cons p ps ih =>
    intro qs hp hq he
    cases qs with
    | nil => exact absurd he.symm (hpos _ _ _)
    | cons q qs =>
      rw [List.map_cons, List.map_cons, List.flatten_cons, List.flatten_cons] at he
      obtain ⟨rfl, hr⟩ := makeRecord_inj hh hh' (hp p List.mem_cons_self) (hq q List.mem_cons_self) he
      rw [ih qs (fun x hx => hp x (List.mem_cons_of_mem _ hx))
        (fun x hx => hq x (List.mem_cons_of_mem _ hx)) hr]

/-! ## the chunks one by one -/

theorem sendChunks_tail (oob oobex : Bool) (chunks : List Bytes) : ∀ i, 1 ≤ i →
    ∃ ws, Sends (sendChunks oob oobex i chunks) ws () ∧ inBand ws = chunks.flatten ∧
      (oobex = false → ws = chunks.map .data) := by
  induction chunks with
  | nil => exact fun i _ => ⟨[], Sends.pure (), rfl, fun _ => rfl⟩
  | cons c cs ih =>
    intro i hi
    obtain ⟨ws, hws, hb, hdata⟩ := ih (i + 1) (by omega)
    have hchunk : sendChunk oob oobex i c = if i = 1 ∧ oobex = true then wrap "oob 2" (send (.oob c 0))
        else wrap ("write record " ++ toString (i + 1)) (send (.data c)) := by
      unfold sendChunk
      rw [if_neg (by omega)]
    unfold sendChunks
    rw [hchunk]
    by_cases hx : i = 1 ∧ oobex = true
    · rw [if_pos hx]
      refine ⟨.oob c 0 :: ws, Sends.send_bind hws, ?_, fun h => absurd hx.2 (by rw [h]; decide)⟩
      rw [inBand_cons, hb, List.flatten_cons]
      rfl
    · rw [if_neg hx]
      refine ⟨.data c :: ws, Sends.send_bind hws, ?_, fun h => ?_⟩
      · rw [inBand_cons, hb, List.flatten_cons]
        rfl
      · rw [hdata h, List.map_cons]

/-- with `oob` the first chunk is sent as well, and the urgent byte is none of it -/
theorem sendChunks_oob (oobex : Bool) (c : Bytes) (cs : List Bytes) :
    ∃ ws, Sends (sendChunks true oobex 0 (c :: cs)) ws () ∧ inBand ws = (c :: cs).flatten := by
  obtain ⟨ws, hws, hb, -⟩ := sendChunks_tail true oobex cs 1 le_rfl
  unfold sendChunks sendChunk
  rw [if_pos rfl, if_pos rfl]
  refine ⟨.oob c 0 :: ws, Sends.send_bind hws, ?_⟩
  rw [inBand_cons, hb, List.flatten_cons]
  rfl

theorem sendChunks_reads {oob oobex : Bool} (h : oob = true ∨ oobex = true) {c : Bytes} (hc : c ≠ [])
    (cs : List Bytes) :
    ∃ ws, Sends (sendChunks oob oobex 0 (c :: cs)) ws () ∧ Reads ws (c :: cs).flatten := by
  cases oob with
  | true =>
    obtain ⟨ws, hws, hb⟩ := sendChunks_oob oobex c cs
    exact ⟨ws, hws, hb ▸ reads_inBand ws⟩
  | false =>
    obtain ⟨ws, hws, hb, -⟩ := sendChunks_tail false oobex cs 1 le_rfl
    have hreads := reads_inBand ws
    rw [hb] at hreads
    unfold sendChunks sendChunk
    rw [if_pos rfl, List.flatten_cons]
    obtain rfl : oobex = true := h.resolve_left (by decide)
    have hlast : c.dropLast ++ [c.getLast hc] = c := List.dropLast_concat_getLast hc
    have hpos := List.length_pos_of_ne_nil hc
    refine ⟨.oob c.dropLast (c.getLast hc) :: ws, ?_, ?_⟩
    · have hcast : (c.length : Int) - 1 = ((c.length - 1 : Nat) : Int) := by omega
      have hfront : sliceTo c (c.length - 1) = .ok c.dropLast := by
        rw [hcast, sliceTo_nat (by omega), List.dropLast_eq_take]
      have hback : idx c (c.length - 1) = .ok (c.getLast hc) := by
        rw [hcast, idx_nat (by omega), List.getLast_eq_getElem]
      rw [if_neg (by decide), if_pos rfl]
      have hone : Sends (do
          let a ← lift (sliceTo c (c.length - 1))
          let u ← lift (idx c (c.length - 1))
          wrap "oob 1" (send (.oob a u)) : Proc Upstream Unit) [.oob c.dropLast (c.getLast hc)] () :=
        Sends.lift_bind hfront (Sends.lift_bind hback (Sends.send _).wrap)
      exact hone.bind hws
    · have hu := Reads.urgent c.dropLast (c.getLast hc) hreads
      rwa [List.append_cons, hlast] at hu

/-! ## the counts -/

/-- counts for which `sendRecords` leaves out the record, its end or its first chunk, and returns no
error -/
def Lossy (records segments : Int) (oob oobex : Bool) : Prop :=
  records = 1 ∧ segments = 0 ∨
  records = 0 ∧ (oobex = true → segments = -1) ∨
  2 ≤ records ∧ (segments < -1 ∨ segments = -1 ∧ oob = false ∧ oobex = false)

instance (records segments : Int) (oob oobex : Bool) : Decidable (Lossy records segments oob oobex) := by
  unfold Lossy; infer_instance

section
variable {d : Bytes} {o : Int} {l : Nat} {records segments : Int}

theorem makeChunks_panic (h : records < 0 ∨ (d.length : Int) ≤ o + l) :
    makeChunks d o l records = .panic := by
  unfold makeChunks makeCap
  by_cases h0 : 0 ≤ records
  · rw [if_pos h0, bind_ok, findLastDot_panic (Or.inr (h.resolve_left (by omega)))]
    rfl
  · rw [if_neg h0]
    rfl

theorem makeChunks_zero (hc : Cuttable d o l) : makeChunks d o l 0 = .ok [] := by
  obtain ⟨h58, hlen⟩ := hc
  obtain ⟨cut, found, hcut, hlo, hhi⟩ := findLastDot_ok (by omega) hlen
  have h3 : sliceTo d 3 = .ok (d.take 3) := sliceTo_nat (n := 3) (by omega)
  have ha : slice d 5 cut = .ok ((d.take cut.toNat).drop 5) :=
    slice_of_le (by omega) (by omega) (by omega)
  have hb : ∃ b, sliceFrom d cut = .ok b := ⟨_, slice_of_le (by omega) (by omega) le_rfl⟩
  obtain ⟨b, hb⟩ := hb
  unfold makeChunks makeCap
  rw [if_pos le_rfl, bind_ok, hcut, bind_ok]
  dsimp only
  rw [h3, bind_ok, ha, bind_ok, hb]
  rfl

theorem sendOneRecord_none (h0 : 0 ≤ o) (hlen : o + l < d.length) (oob : Bool) :
    Sends (sendOneRecord d o l 0 oob) [] () := by
  obtain ⟨cut, found, hcut, hlo, hhi⟩ := findLastDot_ok h0 hlen
  obtain ⟨a, ha⟩ : ∃ a, sliceTo d cut = .ok a := ⟨_, slice_of_le le_rfl (by omega) (by omega)⟩
  obtain ⟨b, hb⟩ : ∃ b, sliceFrom d cut = .ok b := ⟨_, slice_of_le (by omega) (by omega) le_rfl⟩
  unfold sendOneRecord
  rw [if_neg (by decide)]
  refine Sends.lift_bind (a := ()) rfl (Sends.lift_bind hcut (Sends.lift_bind ha ?_))
  exact Sends.lift_bind (a := []) rfl (Sends.lift_bind hb (Sends.lift_bind (a := []) rfl (Sends.pure ())))

theorem sendOneRecord_crash (h : segments < 0 ∨ segments ≠ 1 ∧ (d.length : Int) ≤ o + l) (oob : Bool) :
    Crashes (sendOneRecord d o l segments oob) := by
  unfold sendOneRecord
  rw [if_neg (by omega)]
  by_cases h0 : 0 ≤ segments
  · refine Crashes.bind (a := ()) (Sends.lift ?_) (Crashes.lift_bind (findLastDot_panic (by omega)))
    rw [makeCap, if_pos h0]
  · refine Crashes.lift_bind ?_
    rw [makeCap, if_neg h0]

theorem sendMerged_none (merged : Bytes) (h : segments < 0) (oob : Bool) :
    Sends (sendMerged merged segments oob) [] () := by
  unfold sendMerged
  rw [if_neg (by omega), if_neg (by omega), Int.toNat_of_nonpos (by omega)]
  exact Sends.pure ()

theorem sendMerged_zero {merged : Bytes} (h : merged ≠ []) (oob : Bool) :
    Crashes (sendMerged merged 0 oob) := by
  have hpos := List.length_pos_of_ne_nil h
  unfold sendMerged
  rw [if_neg (by omega), if_pos rfl]
  exact fun c _ => rfl

theorem makeChunks_parts {m : Bool} (hr : 2 ≤ records) (hc : Cuttable d o l) :
    ∃ c cs, makeChunks (sentRecord m d) o l records =
        .ok ((c :: cs).map (makeRecord (sentHeader m d))) ∧
      (c :: cs).flatten = d.drop 5 ∧ (∀ p ∈ c :: cs, p ≠ []) ∧
      ((c :: cs).length : Int) ≤ records := by
  have hlen := sentRecord_length m d
  have hc' : Cuttable (sentRecord m d) o l := by
    unfold Cuttable at hc ⊢
    rwa [hlen]
  obtain ⟨cut, found, -, hlo, hhi, hch⟩ := makeChunks_cut hr hc'
  obtain ⟨h58, hin⟩ := hc'
  have hlt : cut < (sentRecord m d).length := by omega
  have hflat := chunkParts_flatten hr (show 5 ≤ cut by omega) hlt.le
  have hne := chunkParts_ne_nil hr (show 5 < cut by omega) hlt
  obtain ⟨h2, hle⟩ := chunkParts_length (sentRecord m d) cut hr
  cases hparts : chunkParts (sentRecord m d) cut records with
  | nil =>
    rw [hparts] at h2
    simp at h2
  | cons c cs =>
    rw [hparts] at hch hflat hne hle
    exact ⟨c, cs, hch, by rw [hflat, sentRecord_drop], hne, hle⟩

theorem makeRecord_ne_nil (header payload : Bytes) : makeRecord header payload ≠ [] := by
  intro h
  have hl := congrArg List.length h
  rw [makeRecord_length] at hl
  simp at hl

theorem sendRecords_segments_crash (oob oobex m : Bool) (h47 : 47 ≤ d.length) (hc : Cuttable d o l)
    (hr : 2 ≤ records) : Crashes (sendRecords d o l records 0 oob oobex m) := by
  obtain ⟨c, cs, hch, hflat, hne, -⟩ := makeChunks_parts (m := m) hr hc
  unfold sendRecords
  refine Crashes.bind (Sends.lift (setMinorVer_eq m (by omega))) ?_
  rw [if_neg (by omega)]
  refine Crashes.bind (Sends.lift hch) ?_
  rw [if_neg (by decide)]
  refine Crashes.bind (a := ()) (Sends.lift (by rw [makeCap, if_pos (by omega)])) ?_
  have hfl := flatten_makeRecord_length (sentHeader m d) (c :: cs)
  rw [hflat, List.length_drop, List.length_cons] at hfl
  by_cases hx : oobex = true
  · rw [if_pos hx]
    refine Crashes.bind (sendOobEx_sends (by omega)) (sendMerged_zero ?_ oob)
    intro he
    have hl0 := congrArg List.length he
    rw [List.length_drop, List.length_nil] at hl0
    omega
  · rw [if_neg hx]
    refine sendMerged_zero ?_ oob
    intro he
    rw [he, List.length_nil] at hfl
    omega

theorem sendRecords_many (oob oobex m : Bool) (h47 : 47 ≤ d.length) (hc : Cuttable d o l)
    (hr : 2 ≤ records) (hl : ¬ Lossy records segments oob oobex) (hs : segments < 1) :
    Crashes (sendRecords d o l records segments oob oobex m) ∨
      ∃ ws, Sends (sendRecords d o l records segments oob oobex m) ws () ∧ Conveys d ws := by
  unfold Lossy at hl
  by_cases hneg : segments = -1
  · subst hneg
    have hx : oob = true ∨ oobex = true := by
      by_contra hno
      simp only [not_or, Bool.not_eq_true] at hno
      exact hl (.inr (.inr ⟨hr, .inr ⟨rfl, hno.1, hno.2⟩⟩))
    obtain ⟨c, cs, hch, hflat, -, -⟩ := makeChunks_parts (m := m) hr hc
    obtain ⟨ws, hws, hreads⟩ := sendChunks_reads hx (makeRecord_ne_nil (sentHeader m d) c)
      (cs.map (makeRecord (sentHeader m d)))
    exact .inr ⟨ws, sendRecords_single oob oobex m h47 hr hch hws, m, _, hreads, c :: cs, by simp, hflat, rfl⟩
  · -- fewer segments than none would be lossy
    obtain rfl : segments = 0 := by omega
    exact .inl (sendRecords_segments_crash oob oobex m h47 hc hr)

theorem sendRecords_one_crash (oob oobex m : Bool) (h47 : 47 ≤ d.length)
    (h : segments < 0 ∨ segments ≠ 1 ∧ (d.length : Int) ≤ o + l) :
    Crashes (sendRecords d o l 1 segments oob oobex m) := by
  have hlen := sentRecord_length m d
  unfold sendRecords
  refine Crashes.bind (Sends.lift (setMinorVer_eq m (by omega))) ?_
  rw [if_pos rfl]
  by_cases hx : oobex = true
  · rw [if_pos hx]
    refine Crashes.bind (sendOobEx_sends (by omega)) (sendOneRecord_crash ?_ oob)
    rw [List.length_drop]
    omega
  · rw [if_neg hx]
    exact sendOneRecord_crash (by omega) oob

theorem sendRecords_chunks_crash (oob oobex m : Bool) (h47 : 47 ≤ d.length) (h1 : records ≠ 1)
    (h : records < 0 ∨ (d.length : Int) ≤ o + l) :
    Crashes (sendRecords d o l records segments oob oobex m) := by
  have hlen := sentRecord_length m d
  unfold sendRecords
  refine Crashes.bind (Sends.lift (setMinorVer_eq m (by omega))) ?_
  rw [if_neg h1]
  exact Crashes.lift_bind (makeChunks_panic (by omega))

theorem sendRecords_zero_crash (oob m : Bool) (h47 : 47 ≤ d.length) (hc : Cuttable d o l)
    (hs : segments ≠ -1) : Crashes (sendRecords d o l 0 segments oob true m) := by
  have hlen := sentRecord_length m d
  have hc' : Cuttable (sentRecord m d) o l := by
    unfold Cuttable at hc ⊢
    rwa [hlen]
  unfold sendRecords
  refine Crashes.bind (Sends.lift (setMinorVer_eq m (by omega))) ?_
  rw [if_neg (by decide)]
  refine Crashes.bind (Sends.lift (makeChunks_zero hc')) ?_
  rw [if_neg hs]
  refine Crashes.bind (a := ()) (Sends.lift (by rw [makeCap, if_pos (by omega)])) ?_
  exact fun c _ => rfl

/-- **With counts that are not lossy a record is carried, or its sender panics.** -/
theorem sendRecords_conveys (oob oobex m : Bool) (h47 : 47 ≤ d.length) (hd : CompleteRecord d)
    (hname : 58 ≤ o ∧ o + l ≤ d.length)
    (hl : ¬ (Lossy records segments oob oobex ∧ o + l < d.length)) :
    Crashes (sendRecords d o l records segments oob oobex m) ∨
      ∃ ws, Sends (sendRecords d o l records segments oob oobex m) ws () ∧ Conveys d ws := by
  have hset := setMinorVer_eq m (show 3 ≤ d.length by omega)
  have hlen := sentRecord_length m d
  by_cases hcount : 1 ≤ records ∧ 1 ≤ segments
  · by_cases hc : Whole records segments ∨ Cuttable d o l
    · obtain ⟨ws, hws, hf⟩ := sendRecords_sends oob oobex m h47 hd hcount.1 hcount.2 hc
      exact .inr ⟨ws, hws, m, _, reads_carried oobex ws, hf⟩
    · rw [not_or] at hc
      refine .inl (sendRecords_crash oob oobex m h47 ⟨hcount.1, .inl hcount.2⟩ hc.1 (.inr ?_))
      have hcut := hc.2
      unfold Cuttable at hcut
      omega
  by_cases hin : o + l < d.length
  · have hl : ¬ Lossy records segments oob oobex := fun h => hl ⟨h, hin⟩
    by_cases hr : 2 ≤ records
    · exact sendRecords_many oob oobex m h47 ⟨hname.1, hin⟩ hr hl (by omega)
    · unfold Lossy at hl
      by_cases h1 : records = 1
      · subst h1
        exact .inl (sendRecords_one_crash oob oobex m h47 (.inl (by omega)))
      · by_cases h0 : records = 0
        · subst h0
          have hx : oobex = true ∧ segments ≠ -1 := by
            by_contra hno
            exact hl (.inr (.inl ⟨rfl, fun ht => by_contra fun hs => hno ⟨ht, hs⟩⟩))
          obtain ⟨rfl, hs⟩ := hx
          exact .inl (sendRecords_zero_crash oob m h47 ⟨hname.1, hin⟩ hs)
        · exact .inl (sendRecords_chunks_crash oob oobex m h47 h1 (.inl (by omega)))
  · -- the name ends the record: every cut is out of range
    by_cases h1 : records = 1
    · subst h1
      exact .inl (sendRecords_one_crash oob oobex m h47 (.inr (by omega)))
    · exact .inl (sendRecords_chunks_crash oob oobex m h47 h1 (.inr (by omega)))

/-! ## what is lost -/

/-- the two urgent sends of `oob_ex` -/
def oobExWires (d : Bytes) : List Wire :=
  [.oob (d.take 15) (d.getD 15 0), .oob ((d.take 35).drop 16) 0]

theorem not_conveys_oobEx (h47 : 47 ≤ d.length) (e : Bytes) : ¬ Conveys d (oobExWires e) := by
  apply not_conveys_short (by omega)
  show (e.take 15 ++ ((e.take 35).drop 16 ++ [])).length + 2 < d.length
  rw [List.append_nil, List.length_append, List.length_take, List.length_drop, List.length_take]
  omega

theorem not_conveys_nothing (h47 : 47 ≤ d.length) : ¬ Conveys d [] :=
  not_conveys_short (by omega) (show 0 < d.length by omega)

theorem sendRecords_one_loses (oob oobex m : Bool) (h47 : 47 ≤ d.length) (hc : Cuttable d o l) :
    ∃ ws, Sends (sendRecords d o l 1 0 oob oobex m) ws () ∧ ¬ Conveys d ws := by
  have hset := setMinorVer_eq m (show 3 ≤ d.length by omega)
  have hlen := sentRecord_length m d
  obtain ⟨h58, hin⟩ := hc
  unfold sendRecords
  by_cases hx : oobex = true
  · refine ⟨oobExWires (sentRecord m d) ++ [], Sends.lift_bind hset ?_, ?_⟩
    · rw [if_pos rfl, if_pos hx]
      refine Sends.bind (sendOobEx_sends (by omega)) (sendOneRecord_none (by omega) ?_ oob)
      rw [List.length_drop]
      omega
    · rw [List.append_nil]
      exact not_conveys_oobEx h47 _
  · refine ⟨[], Sends.lift_bind hset ?_, not_conveys_nothing h47⟩
    rw [if_pos rfl, if_neg hx]
    exact sendOneRecord_none (by omega) (by omega) oob

theorem sendRecords_zero_loses (oob oobex m : Bool) (h47 : 47 ≤ d.length) (hc : Cuttable d o l)
    (hx : oobex = true → segments = -1) :
    ∃ ws, Sends (sendRecords d o l 0 segments oob oobex m) ws () ∧ ¬ Conveys d ws := by
  have hset := setMinorVer_eq m (show 3 ≤ d.length by omega)
  have hlen := sentRecord_length m d
  have hc' : Cuttable (sentRecord m d) o l := by
    unfold Cuttable at hc ⊢
    rwa [hlen]
  have hempty : ¬ Conveys d [.data []] :=
    not_conveys_short (by omega) (show 0 + 1 < d.length by omega)
  unfold sendRecords
  by_cases hneg : segments = -1
  · refine ⟨[], Sends.lift_bind hset ?_, not_conveys_nothing h47⟩
    rw [if_neg (by decide)]
    refine Sends.lift_bind (makeChunks_zero hc') ?_
    rw [if_pos hneg]
    exact Sends.pure ()
  · have hno : ¬ oobex = true := fun ht => hneg (hx ht)
    obtain ⟨ws, hws, hlost⟩ : ∃ ws, Sends (sendMerged [] segments oob) ws () ∧ ¬ Conveys d ws := by
      by_cases h0 : 0 ≤ segments
      · refine ⟨[.data []], ?_, hempty⟩
        unfold sendMerged
        rw [if_pos (Or.inr (by simpa using h0))]
        exact Sends.send _
      · exact ⟨[], sendMerged_none [] (by omega) oob, not_conveys_nothing h47⟩
    refine ⟨ws, Sends.lift_bind hset ?_, hlost⟩
    rw [if_neg (by decide)]
    refine Sends.lift_bind (makeChunks_zero hc') ?_
    rw [if_neg hneg]
    refine Sends.lift_bind (a := ()) (by rw [makeCap, if_pos (by omega)]) ?_
    rw [if_neg hno]
    exact hws

theorem sentHeader_length (m : Bool) (h : 3 ≤ d.length) : (sentHeader m d).length = 3 := by
  show ((sentRecord m d).take 3).length = 3
  rw [List.length_take, sentRecord_length]
  omega

theorem sendRecords_many_loses (m : Bool) (h47 : 47 ≤ d.length) (hd : CompleteRecord d)
    (hc : Cuttable d o l) (hr : 2 ≤ records) :
    ∃ ws, Sends (sendRecords d o l records (-1) false false m) ws () ∧ ¬ Conveys d ws := by
  obtain ⟨c, cs, hch, hflat, hne, -⟩ := makeChunks_parts (m := m) hr hc
  obtain ⟨ws, hws, hb, hdata⟩ := sendChunks_tail false false (cs.map (makeRecord (sentHeader m d))) 1 le_rfl
  refine ⟨ws, sendRecords_single false false m h47 hr hch hws, ?_⟩
  rintro ⟨m', b, hreads, parts, hp, hpf, rfl⟩
  rw [hdata rfl] at hreads
  have hsize : (d.drop 5).length < 65536 := by
    have hu := u16At_lt d 3
    rw [List.length_drop, hd.2]
    omega
  have hparts : ∀ l' : List Bytes, l'.flatten.length ≤ (d.drop 5).length → ∀ p ∈ l', p.length < 65536 := by
    intro l' hl' p hp'
    exact lt_of_le_of_lt ((List.sublist_flatten_of_mem hp').length_le.trans hl') hsize
  have heq := records_inj (sentHeader_length m' (by omega)) (sentHeader_length m (by omega)) parts cs
    (hparts parts (by rw [hpf])) (hparts cs (by rw [← hflat, List.flatten_cons, List.length_append]; omega))
    hreads.data
  rw [heq, ← hflat, List.flatten_cons] at hpf
  have hl := congrArg List.length hpf
  rw [List.length_append] at hl
  have hpos := List.length_pos_of_ne_nil (hne c List.mem_cons_self)
  omega

theorem sendRecords_few_loses (oob oobex m : Bool) (h47 : 47 ≤ d.length) (hc : Cuttable d o l)
    (hr : 2 ≤ records) (hs : segments < -1) :
    ∃ ws, Sends (sendRecords d o l records segments oob oobex m) ws () ∧ ¬ Conveys d ws := by
  have hset := setMinorVer_eq m (show 3 ≤ d.length by omega)
  obtain ⟨c, cs, hch, hflat, hne, -⟩ := makeChunks_parts (m := m) hr hc
  have hfl := flatten_makeRecord_length (sentHeader m d) (c :: cs)
  rw [hflat, List.length_drop, List.length_cons] at hfl
  have hmerged : ∀ ws, Sends (if oobex then do
        let rest ← sendOobEx ((c :: cs).map (makeRecord (sentHeader m d))).flatten
        sendMerged rest segments oob
      else sendMerged ((c :: cs).map (makeRecord (sentHeader m d))).flatten segments oob) ws () →
      Sends (sendRecords d o l records segments oob oobex m) ws () := by
    intro ws hws
    unfold sendRecords
    refine Sends.lift_bind hset ?_
    rw [if_neg (by omega)]
    refine Sends.lift_bind hch ?_
    rw [if_neg (by omega)]
    exact Sends.lift_bind (a := ()) (by rw [makeCap, if_pos (by omega)]) hws
  cases oobex with
  | true =>
    refine ⟨oobExWires ((c :: cs).map (makeRecord (sentHeader m d))).flatten ++ [], hmerged _ ?_, ?_⟩
    · exact Sends.bind (sendOobEx_sends (by omega)) (sendMerged_none _ (by omega) oob)
    · rw [List.append_nil]
      exact not_conveys_oobEx h47 _
  | false => exact ⟨[], hmerged _ (sendMerged_none _ (by omega) oob), not_conveys_nothing h47⟩

/-- **With lossy counts a record is not carried, wherever its name can be cut.** -/
theorem sendRecords_loses (oob oobex m : Bool) (h47 : 47 ≤ d.length) (hd : CompleteRecord d)
    (hc : Cuttable d o l) (hl : Lossy records segments oob oobex) :
    ∃ ws, Sends (sendRecords d o l records segments oob oobex m) ws () ∧ ¬ Conveys d ws := by
  rcases hl with ⟨rfl, rfl⟩ | ⟨rfl, hx⟩ | ⟨hr, hs | ⟨rfl, rfl, rfl⟩⟩
  · exact sendRecords_one_loses oob oobex m h47 hc
  · exact sendRecords_zero_loses oob oobex m h47 hc hx
  · exact sendRecords_few_loses oob oobex m h47 hc hr hs
  · exact sendRecords_many_loses m h47 hd hc hr

end

/-! ## over a connection that may fail -/

theorem sendOobEx_straight (d : Bytes) : Straight (sendOobEx d) := by
  refine (Straight.lift _).bind fun a => (Straight.lift _).bind fun u => ?_
  refine (Straight.send _).wrap.bind fun _ => (Straight.lift _).bind fun b => ?_
  exact (Straight.send _).wrap.bind fun _ => Straight.lift _

theorem sendParts_straight (oob : Bool) (label : String) (parts : List (Res Bytes)) :
    ∀ i, Straight (sendParts oob label i parts) := by
  induction parts with
  | nil => exact fun i => Straight.pure ()
  | cons part parts ih =>
    intro i
    refine (Straight.lift _).bind fun p => Straight.bind ?_ fun _ => ih (i + 1)
    exact Straight.ite (Straight.send _).wrap (Straight.send _).wrap

theorem sendOneRecord_straight (d : Bytes) (o : Int) (l : Nat) (segments : Int) (oob : Bool) :
    Straight (sendOneRecord d o l segments oob) := by
  refine Straight.ite (Straight.send _).wrap ?_
  refine (Straight.lift _).bind fun _ => (Straight.lift _).bind fun cut => ?_
  refine (Straight.lift _).bind fun a => (Straight.lift _).bind fun left => ?_
  refine (Straight.lift _).bind fun b => (Straight.lift _).bind fun right => ?_
  exact sendParts_straight oob _ _ 0

theorem sendChunks_straight (oob oobex : Bool) (chunks : List Bytes) :
    ∀ i, Straight (sendChunks oob oobex i chunks) := by
  induction chunks with
  | nil => exact fun i => Straight.pure ()
  | cons c cs ih =>
    intro i
    refine Straight.bind ?_ fun _ => ih (i + 1)
    refine Straight.ite (Straight.ite (Straight.send _).wrap (Straight.ite ?_ (Straight.pure ())))
      (Straight.ite (Straight.send _).wrap (Straight.send _).wrap)
    exact (Straight.lift _).bind fun a => (Straight.lift _).bind fun u => (Straight.send _).wrap

theorem sendMerged_straight (merged : Bytes) (segments : Int) (oob : Bool) :
    Straight (sendMerged merged segments oob) :=
  Straight.ite (Straight.send _) (Straight.ite (Straight.lift _) (sendParts_straight oob _ _ 0))

/-- if `sendRecords` returns no error, it has sent what it sends over a reliable connection -/
theorem sendRecords_straight (d : Bytes) (o : Int) (l : Nat) (records segments : Int)
    (oob oobex m : Bool) : Straight (sendRecords d o l records segments oob oobex m) := by
  refine (Straight.lift _).bind fun e => Straight.ite (Straight.ite ?_ ?_) ?_
  · exact (sendOobEx_straight e).bind fun rest => sendOneRecord_straight rest _ l segments oob
  · exact sendOneRecord_straight e o l segments oob
  · refine (Straight.lift _).bind fun chunks => Straight.ite (sendChunks_straight oob oobex chunks 0) ?_
    refine (Straight.lift _).bind fun _ => Straight.ite ?_ (sendMerged_straight _ segments oob)
    exact (sendOobEx_straight _).bind fun rest => sendMerged_straight rest segments oob

end Bill
