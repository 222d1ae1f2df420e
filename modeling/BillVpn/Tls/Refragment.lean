import BillVpn.Tls.Fragment

/-!
# What a fragmented ClientHello carries

Over a connection that never fails, `sendRecords` sends events whose bytes are the record again,
cut into records of its own header (`Refragments`).

* `inBand`     the bytes of the sends without the urgent ones;
* `carried`    the same, with the one urgent byte that belongs to the stream: the first one of
               `oob_ex`, which is byte 15 of what is sent;
* `sendRecords_sends`   **the sends carry a re-fragmented record.**
-/

set_option linter.unusedVariables false

namespace Bill
open Go Res Proc Conn

/-! ## the bytes of the sends -/

def Wire.bytes : Wire → Bytes
  | .data b => b
  | .oob b _ => b
  | .desync b _ _ _ => b

def inBand (ws : List Wire) : Bytes := ws.flatMap Wire.bytes

/-- the client's bytes in a list of sends: under `oob_ex` the first urgent byte is one of them -/
def carried (oobex : Bool) : List Wire → Bytes
  | .oob b u :: ws => if oobex then b ++ u :: inBand ws else b ++ inBand ws
  | ws => inBand ws

@[simp] theorem inBand_nil : inBand [] = [] := rfl
theorem inBand_cons (w : Wire) (ws : List Wire) : inBand (w :: ws) = w.bytes ++ inBand ws := rfl
theorem inBand_append (ws vs : List Wire) : inBand (ws ++ vs) = inBand ws ++ inBand vs :=
  List.flatMap_append

@[simp] theorem carried_nil (oobex : Bool) : carried oobex [] = [] := rfl

theorem carried_false (ws : List Wire) : carried false ws = inBand ws := by
  cases ws with
  | nil => rfl
  | cons w ws => cases w <;> rfl

theorem carried_append_data (oobex : Bool) (ws : List Wire) (b : Bytes) :
    carried oobex (ws ++ [.data b]) = carried oobex ws ++ b := by
  cases ws with
  | nil => simp [carried, inBand_cons, Wire.bytes]
  | cons w ws =>
    have h : inBand (ws ++ [.data b]) = inBand ws ++ b := by
      rw [inBand_append, inBand_cons, inBand_nil, List.append_nil]; rfl
    cases w with
    | oob a u => cases oobex <;> simp [carried, h]
    | data a => simp [carried, inBand_cons, h]
    | desync a p l t => simp [carried, inBand_cons, h]

/-! ## the loops -/

theorem sendPart_sends (oob : Bool) (label : String) (i : Nat) (p : Bytes) :
    ∃ w : Wire, Sends (sendPart oob label i p) [w] () ∧ w.bytes = p := by
  unfold sendPart
  by_cases h : i = 0 ∧ oob = true
  · rw [if_pos h]
    exact ⟨.oob p 0, (Sends.send _).wrap, rfl⟩
  · rw [if_neg h]
    exact ⟨.data p, (Sends.send _).wrap, rfl⟩

theorem inBand_of_parts {ws : List Wire} {ps : List Bytes} (h : ws.map Wire.bytes = ps) :
    inBand ws = ps.flatten := by
  rw [← h]
  rfl

theorem sendParts_sends (oob : Bool) (label : String) (i : Nat) (ps : List Bytes) :
    ∃ ws, Sends (sendParts oob label i (ps.map .ok)) ws () ∧ ws.map Wire.bytes = ps := by
  induction ps generalizing i with
  | nil => exact ⟨[], Sends.pure (), rfl⟩
  | cons p ps ih =>
    obtain ⟨w, hw, hp⟩ := sendPart_sends oob label i p
    obtain ⟨ws, hws, hps⟩ := ih (i + 1)
    refine ⟨w :: ws, Sends.lift_bind rfl (hw.bind hws), ?_⟩
    rw [List.map_cons, hp, hps]

theorem sendMerged_sends (merged : Bytes) {segments : Int} (h : 1 ≤ segments) (oob : Bool) :
    ∃ ws, Sends (sendMerged merged segments oob) ws () ∧ inBand ws = merged := by
  unfold sendMerged
  by_cases h1 : segments = 1 ∨ (merged.length : Int) ≤ segments
  · rw [if_pos h1]
    exact ⟨_, Sends.send _, by simp [inBand_cons, Wire.bytes]⟩
  · obtain ⟨k, hk⟩ : ∃ k, segments.toNat = k + 1 := ⟨segments.toNat - 1, by omega⟩
    rw [if_neg h1, if_neg (by omega)]
    dsimp only
    rw [map_piece _ _ _ (Nat.mul_div_le _ _)]
    obtain ⟨ws, hws, hb⟩ := sendParts_sends oob "write segment" 0
      (pieces (merged.length / segments.toNat) segments.toNat merged)
    refine ⟨ws, hws, ?_⟩
    rw [inBand_of_parts hb, hk, pieces_flatten]

theorem sendOneRecord_parts {d : Bytes} {o : Int} {l cut : Nat} {found : Bool} {segments : Int}
    (oob : Bool) (hs : 2 ≤ segments) (hcut : findLastDot d o l = .ok (↑cut, found))
    (hlen : cut ≤ d.length) :
    ∃ ws, Sends (sendOneRecord d o l segments oob) ws () ∧ ws.map Wire.bytes =
      evenParts (d.take cut) (segments.tdiv 2) ++
        evenParts (d.drop cut) (segments - segments.tdiv 2) := by
  have hhalf := tdiv_two_pos hs
  have hl := splitAndAppend_even (d.take cut) none hhalf.1
  have hr := splitAndAppend_even (d.drop cut) none hhalf.2
  have hadd : ∀ ps : List Bytes, ps.map (addHeader none) = ps := fun ps => List.map_id ps
  rw [hadd] at hl hr
  obtain ⟨ws, hws, hb⟩ := sendParts_sends oob "write packet" 0
    (evenParts (d.take cut) (segments.tdiv 2) ++ evenParts (d.drop cut) (segments - segments.tdiv 2))
  refine ⟨ws, ?_, hb⟩
  unfold sendOneRecord
  rw [if_neg (by omega)]
  refine Sends.lift_bind (a := ()) (by rw [makeCap, if_pos (by omega)]) ?_
  refine Sends.lift_bind hcut (Sends.lift_bind (sliceTo_nat (by omega)) ?_)
  exact Sends.lift_bind hl (Sends.lift_bind (sliceFrom_nat (by omega)) (Sends.lift_bind hr hws))

theorem sendOneRecord_sends {d : Bytes} {o : Int} {l : Nat} {segments : Int}
    (oob : Bool) (hs : 1 ≤ segments)
    (hc : segments = 1 ∨ 0 ≤ o ∧ o + l < d.length) :
    ∃ ws, Sends (sendOneRecord d o l segments oob) ws () ∧ inBand ws = d := by
  by_cases h1 : segments = 1
  · unfold sendOneRecord
    rw [if_pos h1]
    exact ⟨_, (Sends.send _).wrap, by simp [inBand_cons, Wire.bytes]⟩
  obtain ⟨h0, hlen⟩ := hc.resolve_left h1
  obtain ⟨cut, found, hcut, hlo, hhi⟩ := findLastDot_ok h0 hlen
  obtain ⟨k, rfl⟩ : ∃ k : Nat, cut = k := ⟨cut.toNat, by omega⟩
  have h2 : 2 ≤ segments := by omega
  have hhalf := tdiv_two_pos h2
  obtain ⟨ws, hws, hb⟩ := sendOneRecord_parts oob h2 hcut (by omega)
  refine ⟨ws, hws, ?_⟩
  rw [inBand_of_parts hb, List.flatten_append, evenParts_flatten _ hhalf.1, evenParts_flatten _ hhalf.2,
    List.take_append_drop]

/-! ## the record -/

/-- the header of the records that are sent: the first three bytes, with minor version 4 under
`mod_minor_ver` -/
def sentHeader (modMinorVer : Bool) (record : Bytes) : Bytes :=
  (if modMinorVer then record.set 2 0x04 else record).take 3

/-- `frag` is a sequence of records with the header of `record` whose payloads make up its
payload -/
def Refragments (modMinorVer : Bool) (record frag : Bytes) : Prop :=
  ∃ parts : List Bytes, parts ≠ [] ∧ parts.flatten = record.drop 5 ∧
    frag = (parts.map (makeRecord (sentHeader modMinorVer record))).flatten

/-- a complete record: its length field is the length of its payload -/
def CompleteRecord (record : Bytes) : Prop := 5 ≤ record.length ∧ record.length = 5 + u16At record 3

theorem getD_drop {d : Bytes} {n : Nat} (h : n < d.length) : d.drop n = d.getD n 0 :: d.drop (n + 1) := by
  rw [List.drop_eq_getElem_cons h, List.getD_eq_getElem?_getD, List.getElem?_eq_getElem h]
  rfl

theorem makeRecord_self {d : Bytes} (h : CompleteRecord d) : makeRecord (d.take 3) (d.drop 5) = d := by
  obtain ⟨h5, hlen⟩ := h
  have hpay : (d.drop 5).length = u16At d 3 := by rw [List.length_drop]; omega
  have hlt : (d.getD 4 0).toNat < 256 := (d.getD 4 0).toNat_lt
  have hu : u16At d 3 = (d.getD 3 0).toNat * 256 + (d.getD 4 0).toNat := rfl
  have e1 : UInt8.ofNat (u16At d 3 / 256) = d.getD 3 0 := by
    rw [show u16At d 3 / 256 = (d.getD 3 0).toNat by omega]
    exact UInt8.ofNat_toNat
  have e2 : UInt8.ofNat (u16At d 3) = d.getD 4 0 := by
    apply UInt8.toNat.inj
    rw [UInt8.toNat_ofNat']
    omega
  unfold makeRecord
  rw [List.take_append_of_le_length (by rw [List.length_take]; omega), List.take_take, hpay, e1, e2]
  conv_rhs => rw [← List.take_append_drop 3 d, getD_drop (show 3 < d.length by omega),
    getD_drop (show 3 + 1 < d.length by omega)]
  simp

def sentRecord (modMinorVer : Bool) (record : Bytes) : Bytes :=
  if modMinorVer then record.set 2 0x04 else record

theorem sentRecord_length (m : Bool) (d : Bytes) : (sentRecord m d).length = d.length := by
  cases m with
  | false => rfl
  | true => exact List.length_set

theorem sentRecord_drop (m : Bool) (d : Bytes) : (sentRecord m d).drop 5 = d.drop 5 := by
  cases m with
  | false => rfl
  | true => exact List.drop_set_of_lt (by omega)

theorem setMinorVer_eq (modMinorVer : Bool) {d : Bytes} (h : 3 ≤ d.length) :
    setMinorVer modMinorVer d = .ok (sentRecord modMinorVer d) := by
  unfold setMinorVer setIdx sentRecord
  cases modMinorVer with
  | false => rfl
  | true => rw [if_pos rfl, if_pos rfl, if_pos (by omega)]

theorem CompleteRecord.setMinor {d : Bytes} (modMinorVer : Bool) (h : CompleteRecord d) :
    CompleteRecord (sentRecord modMinorVer d) := by
  cases modMinorVer with
  | false => exact h
  | true =>
    have e : u16At (sentRecord true d) 3 = u16At d 3 := by
      show u16At (d.set 2 0x04) 3 = u16At d 3
      unfold u16At
      rw [List.getD_eq_getElem?_getD, List.getD_eq_getElem?_getD, List.getElem?_set_ne (by omega),
        List.getElem?_set_ne (by omega), List.getD_eq_getElem?_getD, List.getD_eq_getElem?_getD]
    unfold CompleteRecord at h ⊢
    rw [e, sentRecord_length]
    exact h

/-- a merged byte string sent with the two urgent sends of `oob_ex` in front -/
theorem carried_oobEx {d : Bytes} (h : 35 ≤ d.length) {ws : List Wire} (hws : inBand ws = d.drop 35) :
    carried true ([.oob (d.take 15) (d.getD 15 0), .oob ((d.take 35).drop 16) 0] ++ ws) = d := by
  show d.take 15 ++ d.getD 15 0 :: ((d.take 35).drop 16 ++ inBand ws) = d
  have hmid : (d.take 35).drop 16 ++ d.drop 35 = d.drop 16 := by
    conv_rhs => rw [← List.take_append_drop 35 d]
    rw [List.drop_append_of_le_length (by rw [List.length_take]; omega)]
  rw [hws, hmid]
  conv_rhs => rw [← List.take_append_drop 15 d, getD_drop (show 15 < d.length by omega)]

section
variable {d : Bytes} {o : Int} {l : Nat} {records segments : Int}

theorem sendOne_sends (oob oobex : Bool) (h35 : 35 ≤ d.length) (hs : 1 ≤ segments)
    (hc : segments = 1 ∨ 35 ≤ o ∧ o + l < d.length) :
    ∃ ws, Sends (if oobex then do
        let rest ← sendOobEx d
        sendOneRecord rest (o - 35) l segments oob
      else sendOneRecord d o l segments oob) ws () ∧ carried oobex ws = d := by
  cases oobex with
  | true =>
    obtain ⟨ws, hws, hb⟩ := sendOneRecord_sends (d := d.drop 35) (o := o - 35) (l := l)
      oob hs (by rw [List.length_drop]; omega)
    exact ⟨_, (sendOobEx_sends h35).bind hws, carried_oobEx h35 hb⟩
  | false =>
    obtain ⟨ws, hws, hb⟩ := sendOneRecord_sends (d := d) (o := o) (l := l)
      oob hs (by omega)
    exact ⟨ws, hws, by rw [carried_false]; exact hb⟩

theorem sendMany_sends (oob oobex : Bool) (h35 : 35 ≤ d.length) (hs : 1 ≤ segments) :
    ∃ ws, Sends (if oobex then do
        let rest ← sendOobEx d
        sendMerged rest segments oob
      else sendMerged d segments oob) ws () ∧ carried oobex ws = d := by
  cases oobex with
  | true =>
    obtain ⟨ws, hws, hb⟩ := sendMerged_sends (d.drop 35) hs oob
    exact ⟨_, (sendOobEx_sends h35).bind hws, carried_oobEx h35 hb⟩
  | false =>
    obtain ⟨ws, hws, hb⟩ := sendMerged_sends d hs oob
    exact ⟨ws, hws, by rw [carried_false]; exact hb⟩

theorem sendRecords_one (oob oobex m : Bool) (h47 : 47 ≤ d.length) (hs : 1 ≤ segments)
    (hc : segments = 1 ∨ Cuttable d o l) :
    ∃ ws, Sends (sendRecords d o l 1 segments oob oobex m) ws () ∧
      carried oobex ws = sentRecord m d := by
  have hset := setMinorVer_eq m (show 3 ≤ d.length by omega)
  have hlen := sentRecord_length m d
  obtain ⟨ws, hws, hb⟩ := sendOne_sends (d := sentRecord m d) (o := o) (l := l) oob oobex
    (by omega) hs (by unfold Cuttable at hc; omega)
  refine ⟨ws, Sends.lift_bind hset ?_, hb⟩
  rw [if_pos rfl]
  exact hws

theorem sendRecords_merged (oob oobex m : Bool) (h47 : 47 ≤ d.length) (hr : 2 ≤ records)
    (hs : 1 ≤ segments) {chunks : List Bytes}
    (hch : makeChunks (sentRecord m d) o l records = .ok chunks) (h35 : 35 ≤ chunks.flatten.length) :
    ∃ ws, Sends (sendRecords d o l records segments oob oobex m) ws () ∧
      carried oobex ws = chunks.flatten := by
  have hset := setMinorVer_eq m (show 3 ≤ d.length by omega)
  obtain ⟨ws, hws, hb⟩ := sendMany_sends oob oobex h35 hs
  refine ⟨ws, Sends.lift_bind hset ?_, hb⟩
  rw [if_neg (by omega)]
  refine Sends.lift_bind hch ?_
  rw [if_neg (by omega)]
  exact Sends.lift_bind (a := ()) (by rw [makeCap, if_pos (by omega)]) hws

theorem sendRecords_single (oob oobex m : Bool) (h47 : 47 ≤ d.length) (hr : 2 ≤ records)
    {chunks : List Bytes} {ws : List Wire}
    (hch : makeChunks (sentRecord m d) o l records = .ok chunks)
    (hws : Sends (sendChunks oob oobex 0 chunks) ws ()) :
    Sends (sendRecords d o l records (-1) oob oobex m) ws () := by
  refine Sends.lift_bind (setMinorVer_eq m (show 3 ≤ d.length by omega)) ?_
  rw [if_neg (by omega)]
  refine Sends.lift_bind hch ?_
  rw [if_pos rfl]
  exact hws

/-- **The sends carry the record.**  Over a connection that never fails, a complete record that is
sent whole or whose name can be cut goes out as records with its header and its payload. -/
theorem sendRecords_sends (oob oobex modMinorVer : Bool) (h47 : 47 ≤ d.length)
    (hd : CompleteRecord d) (hr : 1 ≤ records) (hs : 1 ≤ segments)
    (hc : Whole records segments ∨ Cuttable d o l) :
    ∃ ws, Sends (sendRecords d o l records segments oob oobex modMinorVer) ws () ∧
      Refragments modMinorVer d (carried oobex ws) := by
  have hlen := sentRecord_length modMinorVer d
  have hdrop := sentRecord_drop modMinorVer d
  by_cases h1 : records = 1
  · subst h1
    obtain ⟨ws, hws, hb⟩ := sendRecords_one (o := o) (l := l) oob oobex modMinorVer h47 hs
      (hc.imp And.right id)
    refine ⟨ws, hws, [d.drop 5], by simp, by simp, ?_⟩
    rw [hb, List.map_singleton, List.flatten_singleton, ← hdrop]
    exact (makeRecord_self (hd.setMinor modMinorVer)).symm
  · have hcut : Cuttable (sentRecord modMinorVer d) o l := by
      rcases hc with hw | hcut
      · exact absurd hw.1 h1
      · unfold Cuttable at hcut ⊢
        omega
    obtain ⟨parts, hp, hpf, hp2⟩ := makeChunks_ok (show 2 ≤ records by omega) hcut
    have hfl := flatten_makeRecord_length ((sentRecord modMinorVer d).take 3) parts
    rw [hpf, List.length_drop] at hfl
    obtain ⟨ws, hws, hb⟩ := sendRecords_merged oob oobex modMinorVer h47 (show 2 ≤ records by omega)
      hs hp (by rw [hfl]; omega)
    refine ⟨ws, hws, parts, ?_, by rw [hpf, hdrop], hb⟩
    rintro rfl
    simp at hp2

end

end Bill
