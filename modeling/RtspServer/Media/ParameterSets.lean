/-
  The parameter sets that a source stores, for both formats of extradata: of an AVCC record its
  first SPS and first PPS, of Annex B the first NAL unit of type 7 and the first of type 8. Where
  both formats hold the same sets they leave the same source (`parseExtradata_agree`).
-/
import RtspServer.Media.Extradata

namespace RtspServer

open ByteString

namespace AnnexBParser

/-- The units behind start codes are found again. -/
theorem splitView_join {units : List (Bool × Bytes)} (hunits : ∀ u ∈ units, u.2 ≠ [] ∧ Closed u.2) :
    splitView (join units) = units.map Prod.snd := by
  cases units with
  | nil => rfl
  | cons u units =>
      obtain ⟨long, nal⟩ := u
      obtain ⟨data, hdata⟩ : ∃ data, data = join ((long, nal) :: units) := ⟨_, rfl⟩
      have hstart : data.drop 0 = startCode long ++ (nal ++ join units) := by
        rw [hdata, List.drop_zero, join, List.append_assoc]
      have hcode := startCodeLength_startCode hstart
      have hrest : data.drop (0 + startCodeLength data 0) = nal ++ join units := by
        rw [← List.drop_drop, hstart, hcode, List.drop_left]
      obtain ⟨hne, hnal⟩ := hunits _ List.mem_cons_self
      obtain ⟨views, codes, hscan, hviews⟩ := scanned_join units hrest hne hnal
        fun u hu => hunits u (List.mem_cons_of_mem _ hu)
      have hpos : startCodeLength data 0 ≠ 0 := by
        rw [hcode]
        cases long <;> decide
      have hclean : Clean data 0 0 := fun k _ hk => absurd hk (Nat.not_lt_zero k)
      obtain ⟨views', codes', hleads, hsplit⟩ := checkedSplitView_leads data
      obtain rfl := hleads.unique (.first hclean hpos hscan)
      have hsome := checkedSplit_eq_map hsplit
      rw [checkedSplit_eq, hviews] at hsome
      rw [← hdata]
      exact Option.some.inj hsome

theorem four_le_join {units : List (Bool × Bytes)} (hne : units ≠ [])
    (hunits : ∀ u ∈ units, u.2 ≠ []) : 4 ≤ (join units).length := by
  cases units with
  | nil => exact absurd rfl hne
  | cons u units =>
      obtain ⟨long, nal⟩ := u
      have hpos : 0 < nal.length := List.length_pos_iff.mpr (hunits _ List.mem_cons_self)
      have hcode : 3 ≤ (startCode long).length := by cases long <;> decide
      rw [join, List.length_append, List.length_append]
      omega

theorem head?_join {u : Bool × Bytes} (units : List (Bool × Bytes)) :
    (join (u :: units)).head? = some 0 := by
  obtain ⟨long, nal⟩ := u
  cases long <;> rfl

end AnnexBParser

namespace MediaSource

open AnnexBParser

/-- `nal[0] & 0x1F`, of a NAL unit that is not empty. -/
def nalType (nal : Bytes) : Option UInt8 := nal.head?.map (· &&& 0x1F)

/-- The first NAL unit of a type. -/
def firstOfType (t : UInt8) (nals : List Bytes) : Option Bytes :=
  nals.find? fun nal => nalType nal = some t

theorem firstOfType_cons (t : UInt8) (nal : Bytes) (nals : List Bytes) :
    firstOfType t (nal :: nals) =
      if nalType nal = some t then some nal else firstOfType t nals := by
  unfold firstOfType
  rw [List.find?_cons]
  by_cases h : nalType nal = some t <;> simp [h]

/-- What the loop over the NAL units stores: it keeps what is there, else the first of the type. -/
theorem foldl_storeNal (nals : List Bytes) (info : H264StreamInfo) :
    nals.foldl storeNal info =
      { info with
        sps := if info.sps = [] then (firstOfType 7 nals).getD [] else info.sps
        pps := if info.pps = [] then (firstOfType 8 nals).getD [] else info.pps } := by
  induction nals generalizing info with
  | nil =>
      obtain ⟨sps, pps, width, height, duration⟩ := info
      cases sps <;> cases pps <;> rfl
  | cons nal nals ih =>
      rw [List.foldl_cons, ih, firstOfType_cons, firstOfType_cons]
      obtain ⟨sps, pps, width, height, duration⟩ := info
      cases nal with
      | nil => rfl
      | cons b nal =>
          have htype : nalType (b :: nal) = some (b &&& 0x1F) := rfl
          rw [htype]
          unfold storeNal
          by_cases hsps : b &&& 0x1F = 7
          · cases sps with
            | nil => simp [hsps]
            | cons x sps => simp [hsps]
          · by_cases hpps : b &&& 0x1F = 8
            · cases pps with
              | nil => simp [hpps]
              | cons x pps => simp [hpps]
            · simp [hsps, hpps]

theorem nalType_of_firstOfType {t : UInt8} {nals : List Bytes} {nal : Bytes}
    (h : firstOfType t nals = some nal) : nalType nal = some t ∧ nal ≠ [] := by
  have hfound := List.find?_some (show nals.find? (fun nal => decide (nalType nal = some t)) =
    some nal from h)
  have htype : nalType nal = some t := of_decide_eq_true hfound
  refine ⟨htype, ?_⟩
  rintro rfl
  cases htype

theorem firstOfType_stored (t : UInt8) (nals : List Bytes) :
    (firstOfType t nals).getD [] ≠ [] ↔ (firstOfType t nals).isSome = true := by
  cases h : firstOfType t nals with
  | none => simp
  | some nal => simp [(nalType_of_firstOfType h).2]

/-- No extradata makes the parser read out of bounds, whatever is stored already, and nothing but
    the parameter sets is written. -/
theorem exists_parseExtradata (extra : Bytes) (info : H264StreamInfo) :
    ∃ ok sps pps, parseExtradata extra info = some (ok, { info with sps := sps, pps := pps }) := by
  have hsize := intSize_le extra.length
  unfold parseExtradata
  dsimp only
  split
  · exact ⟨_, info.sps, info.pps, rfl⟩
  · have hfour : 4 ≤ (intSize extra.length).toNat := by omega
    rw [List.getElem?_eq_getElem (show 0 < extra.length by omega)]
    dsimp only
    split
    · unfold parseAvcc
      split
      · exact ⟨_, info.sps, info.pps, rfl⟩
      · rw [List.getElem?_eq_getElem (show 5 < extra.length by omega)]
        dsimp only
        rw [parameterSets_eq hsize _ _ (by omega)]
        dsimp only
        split
        · exact ⟨_, _, info.pps, rfl⟩
        · next hoffset =>
            rw [List.getElem?_eq_getElem (by omega)]
            dsimp only
            rw [parameterSets_eq hsize _ _ (by omega)]
            exact ⟨_, _, _, rfl⟩
    · rw [checkedSplit_eq]
      dsimp only
      rw [foldl_storeNal]
      exact ⟨_, _, _, rfl⟩

/-- Annex B, from a source without parameter sets. -/
theorem parseExtradata_join {units : List (Bool × Bytes)} {info : H264StreamInfo}
    (hne : units ≠ []) (hunits : ∀ u ∈ units, u.2 ≠ [] ∧ Closed u.2)
    (hsize : (join units).length < 2147483648) (hsps : info.sps = []) (hpps : info.pps = []) :
    parseExtradata (join units) info =
      some
        ((firstOfType 7 (units.map Prod.snd)).isSome && (firstOfType 8 (units.map Prod.snd)).isSome,
        { info with
          sps := (firstOfType 7 (units.map Prod.snd)).getD []
          pps := (firstOfType 8 (units.map Prod.snd)).getD [] }) := by
  have hfour := four_le_join hne fun u hu => (hunits u hu).1
  have hzero : (join units)[0]? = some 0 := by
    cases units with
    | nil => exact absurd rfl hne
    | cons u units => exact getElem?_zero_of_head (head?_join units)
  unfold parseExtradata
  dsimp only
  rw [intSize_of_lt hsize, if_neg (by omega), hzero]
  dsimp only
  rw [if_neg (by decide), checkedSplit_eq, splitView_join hunits]
  dsimp only
  rw [foldl_storeNal, if_pos hsps, if_pos hpps]
  have hok := firstOfType_stored 7 (units.map Prod.snd)
  have hok' := firstOfType_stored 8 (units.map Prod.snd)
  simp only [hok, hok', Bool.decide_and, Bool.decide_eq_true]

/-- An AVCC record, from a source without parameter sets. -/
theorem parseExtradata_record {record sps pps : Bytes} {info : H264StreamInfo}
    (hversion : record.head? = some 0x01) (hsize : record.length < 2147483648)
    (h : WellFormed record sps pps) (hsps : info.sps = []) (hpps : info.pps = []) :
    parseExtradata record info = some (true, { info with sps := sps, pps := pps }) := by
  obtain ⟨ok, sps', pps', hparse⟩ := exists_parseExtradata record info
  obtain ⟨ok', info', heq, hok, hstored⟩ := parseExtradata_reads hversion hsps hpps
  rw [seen_of_lt hsize] at hok hstored
  rw [hparse] at heq ⊢
  obtain ⟨rfl, rfl⟩ := Prod.mk.inj (Option.some.inj heq)
  obtain ⟨rfl, rfl⟩ := hstored sps pps (.inl h)
  rw [hok.mpr ⟨_, _, .inl h⟩]

/-- **The two formats agree**: a well-formed record and the same SPS and PPS behind start codes,
    with whatever other units behind them, leave the same source. -/
theorem parseExtradata_agree {record sps pps : Bytes} {info : H264StreamInfo} {long long' : Bool}
    {units : List (Bool × Bytes)} (hversion : record.head? = some 0x01)
    (hsize : record.length < 2147483648) (h : WellFormed record sps pps)
    (htype : nalType sps = some 7) (htype' : nalType pps = some 8) (hclosed : Closed sps)
    (hclosed' : Closed pps) (hunits : ∀ u ∈ units, u.2 ≠ [] ∧ Closed u.2)
    (hsize' : (join ((long, sps) :: (long', pps) :: units)).length < 2147483648)
    (hsps : info.sps = []) (hpps : info.pps = []) :
    parseExtradata record info =
      parseExtradata (join ((long, sps) :: (long', pps) :: units)) info := by
  have hne : sps ≠ [] := by rintro rfl; cases htype
  have hne' : pps ≠ [] := by rintro rfl; cases htype'
  have hall : ∀ u ∈ (long, sps) :: (long', pps) :: units, u.2 ≠ [] ∧ Closed u.2 := by
    intro u hu
    rcases List.mem_cons.mp hu with rfl | hu
    · exact ⟨hne, hclosed⟩
    · rcases List.mem_cons.mp hu with rfl | hu
      · exact ⟨hne', hclosed'⟩
      · exact hunits u hu
  rw [parseExtradata_record hversion hsize h hsps hpps,
    parseExtradata_join (List.cons_ne_nil _ _) hall hsize' hsps hpps]
  simp only [List.map_cons, firstOfType_cons, htype, htype']
  rfl

theorem parseExtradata_agree_oneOfEach :
    parseExtradata oneOfEach noSets = parseExtradata (join [(false, [0x67]), (true, [0x68])]) noSets :=
  have hclosed : ∀ b : UInt8, b ≠ 0 → Closed [b] := fun b hb =>
    ⟨fun k hk => by have := hk.length_le; simp at this; omega, by simpa using hb⟩
  parseExtradata_agree rfl (by decide) oneOfEach_wellFormed rfl rfl (hclosed 0x67 (by decide))
    (hclosed 0x68 (by decide)) (fun _ hu => absurd hu List.not_mem_nil) (by decide) rfl rfl

/-- The extradata holds these parameter sets, in one format or in the other. -/
inductive Holds (extra : Bytes) : Bytes → Bytes → Prop where
  | avcc {sps pps : Bytes} (hversion : extra.head? = some 0x01) (h : WellFormed extra sps pps) :
      Holds extra sps pps
  | annexB {sps pps : Bytes} (units : List (Bool × Bytes)) (hextra : extra = join units)
      (hunits : ∀ u ∈ units, u.2 ≠ [] ∧ Closed u.2)
      (hsps : firstOfType 7 (units.map Prod.snd) = some sps)
      (hpps : firstOfType 8 (units.map Prod.snd) = some pps) : Holds extra sps pps

theorem parseExtradata_holds {extra sps pps : Bytes} {info : H264StreamInfo}
    (h : Holds extra sps pps) (hsize : extra.length < 2147483648) (hsps : info.sps = [])
    (hpps : info.pps = []) :
    parseExtradata extra info = some (true, { info with sps := sps, pps := pps }) := by
  cases h with
  | avcc hversion h => exact parseExtradata_record hversion hsize h hsps hpps
  | annexB units hextra hunits hfirst hfirst' =>
      subst hextra
      have hne : units ≠ [] := by
        rintro rfl
        cases hfirst
      rw [parseExtradata_join hne hunits hsize hsps hpps, hfirst, hfirst']
      rfl

end MediaSource

end RtspServer
