/-
  Model of `MediaSource::parseExtradata`: the parameter sets in the extradata of a stream, which
  is either an AVCC record or Annex B. A read outside of the bytes is `none`. The size is the
  `int` that the code makes of the length. Positions are natural numbers: the loops read at most
  31 and 255 entries, so no `offset` is near the largest `int`.

  An AVCC record that is cut short is mostly refused, but not always: where the list of the SPS
  ends too early behind the length of an entry, the loop over the PPS goes on from there, and
  takes whatever bytes come next for a PPS (`Misread`).
-/
import RtspServer.Lib.LengthPrefixed
import RtspServer.Media.AnnexBParser
import RtspServer.Media.MediaSource

namespace RtspServer

open ByteString LengthPrefixed

namespace MediaSource

/-- The loop over one kind of parameter sets, from entry `i` on, with `n` to go: where it leaves
    `offset`, and the stored one. -/
def parameterSets (data : Bytes) (size : Nat) : Nat → Nat → Nat → Bytes → Option (Nat × Bytes)
  | 0, _, offset, stored => some (offset, stored)
  | n + 1, i, offset, stored =>
      if size < offset + 2 then some (offset, stored)
      else
        match data[offset]?, data[offset + 1]? with
        | some hi, some lo =>
            let len := hi.toNat <<< 8 ||| lo.toNat
            let offset := offset + 2
            if size < offset + len then some (offset, stored)
            else if i = 0 then
              match AnnexBParser.checkedCopy data offset (offset + len) with
              | some stored => parameterSets data size n (i + 1) (offset + len) stored
              | none => none
            else parameterSets data size n (i + 1) (offset + len) stored
        | _, _ => none

/-- The branch for AVCC. -/
def parseAvcc (data : Bytes) (size : Nat) (info : H264StreamInfo) :
    Option (Bool × H264StreamInfo) :=
  if size < 7 then some (false, info)
  else
    match data[5]? with
    | none => none
    | some flags =>
        match parameterSets data size (flags &&& 0x1F).toNat 0 6 info.sps with
        | none => none
        | some (offset, sps) =>
            let info := { info with sps := sps }
            if size ≤ offset then some (false, info)
            else
              match data[offset]? with
              | none => none
              | some numPps =>
                  match parameterSets data size numPps.toNat 0 (offset + 1) info.pps with
                  | none => none
                  | some (_, pps) =>
                      let info := { info with pps := pps }
                      some (info.sps ≠ [] ∧ info.pps ≠ [], info)

/-- One NAL unit in the branch for Annex B: the first SPS and the first PPS are stored. -/
def storeNal (info : H264StreamInfo) (nal : Bytes) : H264StreamInfo :=
  match nal with
  | [] => info
  | b :: _ =>
      if b &&& 0x1F = 7 ∧ info.sps = [] then { info with sps := nal }
      else if b &&& 0x1F = 8 ∧ info.pps = [] then { info with pps := nal }
      else info

/-- `static_cast<int>` of a length. -/
def intSize (n : Nat) : Int := Int.bmod n 4294967296

/-- `parseExtradata`: its result and `stream_info_`. -/
def parseExtradata (extra : Bytes) (info : H264StreamInfo) : Option (Bool × H264StreamInfo) :=
  let size := intSize extra.length
  if size < 4 then some (false, info)
  else
    match extra[0]? with
    | none => none
    | some version =>
        if version = 0x01 then parseAvcc extra size.toNat info
        else
          match AnnexBParser.checkedSplit extra with
          | none => none
          | some nals =>
              let info := nals.foldl storeNal info
              some (info.sps ≠ [] ∧ info.pps ≠ [], info)

/-! ## What the loops read -/

/-- The bytes that the `int` counts. -/
def seen (extra : Bytes) : Bytes := extra.take (intSize extra.length).toNat

theorem intSize_le (n : Nat) : (intSize n).toNat ≤ n := by
  unfold intSize
  rw [Int.bmod_def]
  omega

theorem intSize_of_lt {n : Nat} (h : n < 2147483648) : intSize n = n := by
  unfold intSize
  rw [Int.bmod_def]
  omega

theorem seen_of_lt {extra : Bytes} (h : extra.length < 2147483648) : seen extra = extra := by
  rw [seen, intSize_of_lt h, Int.toNat_natCast, List.take_length]

theorem length16_eq (hi lo : UInt8) : hi.toNat <<< 8 ||| lo.toNat = length16 hi lo := by
  rw [← Nat.shiftLeft_add_eq_or_of_lt (by exact lo.toNat_lt), Nat.shiftLeft_eq, length16]
  omega

/-- The next two bytes. -/
theorem drop_two {data : Bytes} {size offset : Nat} (hsize : size ≤ data.length)
    (h : offset + 2 ≤ size) :
    ∃ hi lo, data[offset]? = some hi ∧ data[offset + 1]? = some lo ∧
      (data.take size).drop offset = hi :: lo :: (data.take size).drop (offset + 2) := by
  have h0 : offset < (data.take size).length := by rw [List.length_take]; omega
  have h1 : offset + 1 < (data.take size).length := by rw [List.length_take]; omega
  refine ⟨data[offset], data[offset + 1], List.getElem?_eq_getElem (by omega),
    List.getElem?_eq_getElem (by omega), ?_⟩
  rw [List.drop_eq_getElem_cons h0, List.drop_eq_getElem_cons h1, List.getElem_take,
    List.getElem_take]

/-- The loop reads what `scan` reads, and nothing outside of the bytes. -/
theorem parameterSets_eq {data : Bytes} {size : Nat} (hsize : size ≤ data.length) (n i : Nat)
    {offset : Nat} (hoffset : offset ≤ size) (stored : Bytes) :
    parameterSets data size n i offset stored =
      some (size - (scan n ((data.take size).drop offset)).2.length,
        if i = 0 then (scan n ((data.take size).drop offset)).1.getD stored else stored) := by
  have hlength : ∀ k, ((data.take size).drop k).length = size - k := by
    intro k
    rw [List.length_drop, List.length_take, Nat.min_eq_left hsize]
  induction n generalizing i offset stored with
  | zero =>
      rw [parameterSets, scan, hlength, show size - (size - offset) = offset by omega]
      split <;> rfl
  | succ n ih =>
      rw [parameterSets]
      split
      · next hshort =>
          have hlen : ((data.take size).drop offset).length < 2 := by
            rw [hlength]
            omega
          rw [scan_short hlen, hlength, show size - (size - offset) = offset by omega]
          split <;> rfl
      · next hlong =>
          obtain ⟨hi, lo, hhi, hlo, hdrop⟩ := drop_two hsize (Nat.le_of_not_lt hlong)
          have hlen := hlength (offset + 2)
          rw [hhi, hlo, hdrop]
          dsimp only
          rw [length16_eq]
          split
          · next hcut =>
              have hscan : scan (n + 1) (hi :: lo :: (data.take size).drop (offset + 2)) =
                  (none, (data.take size).drop (offset + 2)) := by
                rw [scan, if_neg (by omega)]
              rw [hscan]
              dsimp only
              rw [hlen, show size - (size - (offset + 2)) = offset + 2 by omega]
              split <;> rfl
          · next hfits =>
              have hrest : ((data.take size).drop (offset + 2)).drop (length16 hi lo) =
                  (data.take size).drop (offset + 2 + length16 hi lo) := List.drop_drop
              have hscan : scan (n + 1) (hi :: lo :: (data.take size).drop (offset + 2)) =
                  (some (((data.take size).drop (offset + 2)).take (length16 hi lo)),
                    (scan n ((data.take size).drop (offset + 2 + length16 hi lo))).2) := by
                rw [scan, if_pos (by omega), hrest]
              have hcopy :
                  AnnexBParser.checkedCopy data (offset + 2) (offset + 2 + length16 hi lo) =
                    some (((data.take size).drop (offset + 2)).take (length16 hi lo)) := by
                rw [AnnexBParser.checkedCopy, if_pos ⟨by omega, by omega⟩, substr, List.drop_take,
                  List.take_take, Nat.add_sub_cancel_left, Nat.min_eq_left (by omega)]
              rw [hscan, hcopy]
              dsimp only
              rw [ih _ (by omega), ih _ (by omega), if_neg (Nat.succ_ne_zero i),
                if_neg (Nat.succ_ne_zero i)]
              split <;> rfl

/-! ## Records -/

/-- A well-formed AVCC record: the SPS that byte 5 counts, a count of PPS, and the first PPS. -/
def WellFormed (s sps pps : Bytes) : Prop :=
  ∃ head flags spss count rest,
    s = head ++ flags :: (entries spss ++ count :: (entry pps ++ rest)) ∧ head.length = 5 ∧
      spss.length = (flags &&& 0x1F).toNat ∧ Fit spss ∧ spss.head? = some sps ∧
      1 ≤ count.toNat ∧ pps.length < 65536 ∧ sps ≠ [] ∧ pps ≠ []

/-- A record whose list of SPS is cut short behind the length of an entry that is not the first
    one, and the bytes behind that length look like a count and a PPS. -/
def Misread (s sps pps : Bytes) : Prop :=
  ∃ head flags spss hi lo count rest,
    s = head ++ flags :: (entries spss ++ hi :: lo :: count :: (entry pps ++ rest)) ∧
      head.length = 5 ∧ spss.length < (flags &&& 0x1F).toNat ∧
      (count :: (entry pps ++ rest)).length < length16 hi lo ∧ Fit spss ∧
      spss.head? = some sps ∧ 1 ≤ count.toNat ∧ pps.length < 65536 ∧ sps ≠ [] ∧ pps ≠ []

/-- What the loops find behind byte 5. -/
def Found (n : Nat) (t sps pps : Bytes) : Prop :=
  ∃ count u, scan n t = (some sps, count :: u) ∧ (scan count.toNat u).1 = some pps ∧
    sps ≠ [] ∧ pps ≠ []

theorem scan_head {es : List Bytes} {sps : Bytes} (hfit : Fit es) (hhead : es.head? = some sps)
    (n : Nat) (s : Bytes) : scan (es.length + n) (entries es ++ s) = (some sps, (scan n s).2) := by
  cases es with
  | nil => cases hhead
  | cons e es =>
      obtain rfl := Option.some.inj hhead
      exact scan_entries hfit n s

theorem scan_first {count : UInt8} (hcount : 1 ≤ count.toNat) {pps : Bytes}
    (hpps : pps.length < 65536) (rest : Bytes) :
    (scan count.toNat (entry pps ++ rest)).1 = some pps := by
  obtain ⟨m, hm⟩ : ∃ m, count.toNat = m + 1 := Nat.exists_eq_succ_of_ne_zero (by omega)
  rw [hm, scan_entry m hpps]

theorem found_of_wellFormed {head t sps pps : Bytes} {flags : UInt8} (hlen : head.length = 5)
    (h : WellFormed (head ++ flags :: t) sps pps) : Found (flags &&& 0x1F).toNat t sps pps := by
  obtain ⟨head', flags', spss, count, rest, heq, hlen', hn, hfit, hhead, hcount, hpps, hne⟩ := h
  obtain ⟨rfl, htail⟩ := List.append_inj heq (hlen.trans hlen'.symm)
  obtain ⟨rfl, rfl⟩ := List.cons.inj htail
  refine ⟨count, entry pps ++ rest, ?_, scan_first hcount hpps rest, hne⟩
  rw [← hn]
  exact scan_head hfit hhead 0 _

theorem found_of_misread {head t sps pps : Bytes} {flags : UInt8} (hlen : head.length = 5)
    (h : Misread (head ++ flags :: t) sps pps) : Found (flags &&& 0x1F).toNat t sps pps := by
  obtain ⟨head', flags', spss, hi, lo, count, rest, heq, hlen', hn, hcut, hfit, hhead, hcount, hpps,
    hne⟩ := h
  obtain ⟨rfl, htail⟩ := List.append_inj heq (hlen.trans hlen'.symm)
  obtain ⟨rfl, rfl⟩ := List.cons.inj htail
  refine ⟨count, entry pps ++ rest, ?_, scan_first hcount hpps rest, hne⟩
  obtain ⟨m, hm⟩ : ∃ m, (flags &&& 0x1F).toNat = spss.length + (m + 1) :=
    ⟨(flags &&& 0x1F).toNat - spss.length - 1, by omega⟩
  rw [hm, scan_head hfit hhead, scan, if_neg (Nat.not_le_of_lt hcut)]

theorem records_of_found {head t sps pps : Bytes} {flags : UInt8} (hlen : head.length = 5)
    (h : Found (flags &&& 0x1F).toNat t sps pps) :
    WellFormed (head ++ flags :: t) sps pps ∨ Misread (head ++ flags :: t) sps pps := by
  obtain ⟨count, u, hscan, hpps, hne⟩ := h
  obtain ⟨spss, r, hfit, rfl, hfirst, hstop⟩ := exists_entries (flags &&& 0x1F).toNat t
  rw [hscan] at hfirst hstop
  obtain ⟨rest, rfl, hlength⟩ : ∃ rest, u = entry pps ++ rest ∧ pps.length < 65536 := by
    obtain ⟨ppss, rest, hfit', rfl, hfirst', -⟩ := exists_entries count.toNat u
    rw [hpps] at hfirst'
    cases ppss with
    | nil => cases hfirst'
    | cons e es =>
        obtain rfl := Option.some.inj hfirst'
        exact ⟨entries es ++ rest, by rw [entries_cons, List.append_assoc],
          hfit' pps List.mem_cons_self⟩
  have hcount : 1 ≤ count.toNat := by
    cases hzero : count.toNat with
    | zero =>
        rw [hzero] at hpps
        cases hpps
    | succ m => exact Nat.succ_pos m
  dsimp only at hstop hfirst
  rcases hstop with ⟨hn, rfl⟩ | ⟨-, hshort, rfl⟩ | ⟨hn, hi, lo, rfl, hcut⟩
  · exact .inl ⟨head, flags, spss, count, _, rfl, hlen, hn, hfit, hfirst.symm, hcount, hlength, hne⟩
  · rw [entry, List.length_cons, List.cons_append, List.length_cons] at hshort
    omega
  · exact .inr ⟨head, flags, spss, hi, lo, count, _, rfl, hlen, hn, hcut, hfit, hfirst.symm, hcount,
      hlength, hne⟩

/-- A record is not both. -/
theorem WellFormed.not_misread {s sps pps sps' pps' : Bytes} (h : WellFormed s sps pps) :
    ¬ Misread s sps' pps' := by
  obtain ⟨head, flags, spss, count, rest, rfl, hlen, hn, hfit, -⟩ := h
  rintro ⟨head', flags', spss', hi, lo, count', rest', heq, hlen', hn', hcut, hfit', -⟩
  obtain ⟨-, hbehind⟩ := List.append_inj heq (hlen.trans hlen'.symm)
  obtain ⟨rfl, htail⟩ := List.cons.inj hbehind
  exact entries_ne_cut hfit hfit' (by omega) hcut htail

/-- A record that is accepted has at least 7 bytes. -/
theorem seven_le {s sps pps : Bytes} (h : WellFormed s sps pps ∨ Misread s sps pps) :
    7 ≤ s.length := by
  rcases h with ⟨head, flags, spss, count, rest, rfl, hlen, -⟩ |
    ⟨head, flags, spss, hi, lo, count, rest, rfl, hlen, -⟩
  all_goals
    simp only [List.length_append, List.length_cons]
    omega

/-! ## The result -/

/-- The parse of a source without parameter sets returns true exactly on these records, and then
    stores their first SPS and first PPS. -/
def Reads (result : Option (Bool × H264StreamInfo)) (record : Bytes → Bytes → Prop) : Prop :=
  ∃ ok info, result = some (ok, info) ∧ (ok = true ↔ ∃ sps pps, record sps pps) ∧
    ∀ sps pps, record sps pps → info.sps = sps ∧ info.pps = pps

theorem reads_of_false {info : H264StreamInfo} {record : Bytes → Bytes → Prop}
    (h : ∀ sps pps, ¬ record sps pps) : Reads (some (false, info)) record := by
  refine ⟨false, info, rfl, ⟨fun hok => absurd hok Bool.false_ne_true, ?_⟩,
    fun sps pps hrec => absurd hrec (h sps pps)⟩
  rintro ⟨sps, pps, hrec⟩
  exact absurd hrec (h sps pps)

theorem Reads.congr {result : Option (Bool × H264StreamInfo)}
    {record record' : Bytes → Bytes → Prop} (h : Reads result record)
    (hiff : ∀ sps pps, record sps pps ↔ record' sps pps) : Reads result record' := by
  obtain rfl : record = record' := by
    funext sps pps
    exact propext (hiff sps pps)
  exact h

/-- The records that a parse reads are determined by it. -/
theorem Reads.iff {result : Option (Bool × H264StreamInfo)} {record record' : Bytes → Bytes → Prop}
    (h : Reads result record) (h' : Reads result record') (sps pps : Bytes) :
    record sps pps ↔ record' sps pps := by
  obtain ⟨ok, info, rfl, hok, hstored⟩ := h
  obtain ⟨ok', info', heq, hok', hstored'⟩ := h'
  obtain ⟨rfl, rfl⟩ := Prod.mk.inj (Option.some.inj heq)
  constructor
  · intro hrec
    obtain ⟨sps', pps', hrec'⟩ := hok'.mp (hok.mpr ⟨sps, pps, hrec⟩)
    obtain ⟨rfl, rfl⟩ := hstored sps pps hrec
    obtain ⟨rfl, rfl⟩ := hstored' sps' pps' hrec'
    exact hrec'
  · intro hrec
    obtain ⟨sps', pps', hrec'⟩ := hok.mp (hok'.mpr ⟨sps, pps, hrec⟩)
    obtain ⟨rfl, rfl⟩ := hstored' sps pps hrec
    obtain ⟨rfl, rfl⟩ := hstored sps' pps' hrec'
    exact hrec'

/-- What is stored: nothing where no entry was read. -/
theorem reads_stored (first second : Option Bytes) (info : H264StreamInfo) :
    Reads (some (decide (first.getD [] ≠ [] ∧ second.getD [] ≠ []),
        { info with sps := first.getD [], pps := second.getD [] }))
      fun sps pps => first = some sps ∧ second = some pps ∧ sps ≠ [] ∧ pps ≠ [] := by
  have hread : ∀ {o : Option Bytes}, o.getD [] ≠ [] → o = some (o.getD []) := by
    intro o ho
    cases o with
    | none => exact absurd rfl ho
    | some e => rfl
  refine ⟨_, _, rfl, ?_, ?_⟩
  · rw [decide_eq_true_iff]
    constructor
    · rintro ⟨hsps, hpps⟩
      exact ⟨_, _, hread hsps, hread hpps, hsps, hpps⟩
    · rintro ⟨sps, pps, rfl, rfl, hne⟩
      exact hne
  · rintro sps pps ⟨rfl, rfl, -⟩
    exact ⟨rfl, rfl⟩

theorem found_iff {n : Nat} {t u : Bytes} {first : Option Bytes} {count : UInt8}
    (hscan : scan n t = (first, count :: u)) (sps pps : Bytes) :
    (first = some sps ∧ (scan count.toNat u).1 = some pps ∧ sps ≠ [] ∧ pps ≠ []) ↔
      Found n t sps pps := by
  constructor
  · rintro ⟨rfl, hpps, hne⟩
    exact ⟨count, u, hscan, hpps, hne⟩
  · rintro ⟨count', u', heq, hpps, hne⟩
    obtain ⟨rfl, htail⟩ := Prod.mk.inj (hscan.symm.trans heq)
    obtain ⟨rfl, rfl⟩ := List.cons.inj htail
    exact ⟨rfl, hpps, hne⟩

/-- A byte among those that are counted, and what is behind it. -/
theorem byte_at {data pre r : Bytes} {b : UInt8} {size : Nat} (hsize : size ≤ data.length)
    (h : data.take size = pre ++ b :: r) :
    data[pre.length]? = some b ∧ (data.take size).drop (pre.length + 1) = r ∧
      pre.length + (r.length + 1) = size := by
  have hlen := congrArg List.length h
  rw [List.length_take, Nat.min_eq_left hsize, List.length_append, List.length_cons] at hlen
  refine ⟨?_, ?_, hlen.symm⟩
  · rw [← List.getElem?_take_of_lt (show pre.length < size by omega), h,
      List.getElem?_append_right (Nat.le_refl _), Nat.sub_self]
    rfl
  · rw [h, ← List.drop_drop, List.drop_left]
    rfl

theorem parseAvcc_reads {data head t : Bytes} {flags : UInt8} {size : Nat} {info : H264StreamInfo}
    (hsize : size ≤ data.length) (hseven : 7 ≤ size) (hseen : data.take size = head ++ flags :: t)
    (hlen : head.length = 5) (hsps : info.sps = []) (hpps : info.pps = []) :
    Reads (parseAvcc data size info) (Found (flags &&& 0x1F).toNat t) := by
  obtain ⟨hflags, htail, -⟩ := byte_at hsize hseen
  rw [hlen] at hflags htail
  rw [parseAvcc, if_neg (Nat.not_lt_of_le hseven), hflags]
  dsimp only
  rw [parameterSets_eq hsize _ _ (by omega), htail, if_pos rfl, hsps]
  dsimp only
  obtain ⟨first, r, hscan⟩ : ∃ first r, scan (flags &&& 0x1F).toNat t = (first, r) := ⟨_, _, rfl⟩
  have hsuffix : r <:+ data.take size := by
    have hr := scan_suffix (flags &&& 0x1F).toNat t
    rw [hscan] at hr
    exact hr.trans (htail ▸ List.drop_suffix 6 _)
  rw [hscan]
  dsimp only
  cases r with
  | nil =>
      rw [List.length_nil, Nat.sub_zero, if_pos (Nat.le_refl size)]
      refine reads_of_false fun sps pps hfound => ?_
      obtain ⟨count, u, heq, -⟩ := hfound
      rw [hscan] at heq
      cases (Prod.mk.inj heq).2
  | cons count u =>
      obtain ⟨pre, hpre⟩ := hsuffix
      obtain ⟨hcount, hrest, hsum⟩ := byte_at hsize hpre.symm
      have hoffset : size - (count :: u).length = pre.length := by
        rw [List.length_cons]
        omega
      rw [hoffset, if_neg (by omega), hcount]
      dsimp only
      rw [parameterSets_eq hsize _ _ (by omega), hrest, if_pos rfl, hpps]
      exact (reads_stored first (scan count.toNat u).1 info).congr (found_iff hscan)

theorem getElem?_zero_of_head {extra : Bytes} {b : UInt8} (h : extra.head? = some b) :
    extra[0]? = some b := by
  rw [← List.head?_eq_getElem?]
  exact h

/-- What is accepted of a string that begins as an AVCC record does. -/
theorem parseExtradata_reads {extra : Bytes} {info : H264StreamInfo}
    (hversion : extra.head? = some 0x01) (hsps : info.sps = []) (hpps : info.pps = []) :
    Reads (parseExtradata extra info)
      fun sps pps => WellFormed (seen extra) sps pps ∨ Misread (seen extra) sps pps := by
  have hsize := intSize_le extra.length
  have hlen : (seen extra).length = (intSize extra.length).toNat := by
    rw [seen, List.length_take, Nat.min_eq_left hsize]
  have hshort : (intSize extra.length).toNat < 7 → ∀ sps pps,
      ¬ (WellFormed (seen extra) sps pps ∨ Misread (seen extra) sps pps) := by
    intro hlt sps pps hrec
    have hseven := seven_le hrec
    omega
  unfold parseExtradata
  dsimp only
  split
  · exact reads_of_false (hshort (by omega))
  · rw [getElem?_zero_of_head hversion]
    dsimp only
    rw [if_pos rfl]
    rcases Nat.lt_or_ge (intSize extra.length).toNat 7 with hlt | hge
    · rw [parseAvcc, if_pos hlt]
      exact reads_of_false (hshort hlt)
    · have hfive : 5 < (seen extra).length := by omega
      have hhead : ((seen extra).take 5).length = 5 := by
        rw [List.length_take, Nat.min_eq_left (Nat.le_of_lt hfive)]
      have hseen : seen extra = (seen extra).take 5 ++ (seen extra)[5] :: (seen extra).drop 6 := by
        rw [← List.drop_eq_getElem_cons hfive, List.take_append_drop]
      refine (parseAvcc_reads hsize hge hseen hhead hsps hpps).congr fun sps pps => ?_
      constructor
      · intro hfound
        rw [hseen]
        exact records_of_found hhead hfound
      · intro hrec
        rw [hseen] at hrec
        exact hrec.elim (found_of_wellFormed hhead) (found_of_misread hhead)

/-- **AVCC extradata**, for every string that begins with 0x01 and every source without
    parameter sets: no read is out of bounds, and the string is accepted exactly when it is a
    well-formed record, whose first SPS and first PPS are then stored, if and only if it is no
    record whose list of SPS is cut short in front of what looks like a PPS. From 2^31 bytes on
    the condition is that the bytes that the `int` counts read as the whole string does. -/
theorem parseExtradata_exact_iff {extra : Bytes} {info : H264StreamInfo}
    (hversion : extra.head? = some 0x01) (hsps : info.sps = []) (hpps : info.pps = []) :
    parseExtradata extra info ≠ none ∧
      (Reads (parseExtradata extra info) (WellFormed extra) ↔
        (extra.length < 2147483648 ∧ ∀ sps pps, ¬ Misread extra sps pps) ∨
          (2147483648 ≤ extra.length ∧ ∀ sps pps,
            (WellFormed (seen extra) sps pps ∨ Misread (seen extra) sps pps) ↔
              WellFormed extra sps pps)) := by
  have hreads := parseExtradata_reads hversion hsps hpps
  refine ⟨?_, ?_⟩
  · obtain ⟨ok, info', heq, -⟩ := hreads
    rw [heq]
    exact Option.some_ne_none _
  have hiff : Reads (parseExtradata extra info) (WellFormed extra) ↔ ∀ sps pps,
      (WellFormed (seen extra) sps pps ∨ Misread (seen extra) sps pps) ↔
        WellFormed extra sps pps := ⟨hreads.iff, hreads.congr⟩
  rw [hiff]
  rcases Nat.lt_or_ge extra.length 2147483648 with hlt | hge
  · rw [seen_of_lt hlt]
    constructor
    · intro h
      refine .inl ⟨hlt, fun sps pps hmis => ?_⟩
      exact ((h sps pps).mp (.inr hmis)).not_misread hmis
    · rintro (⟨-, hno⟩ | ⟨hge, -⟩) sps pps
      · exact or_iff_left (hno sps pps)
      · omega
  · constructor
    · exact fun h => .inr ⟨hge, h⟩
    · rintro (⟨hlt, -⟩ | ⟨-, h⟩)
      · omega
      · exact h

/-- A source that has no parameter sets yet. -/
def noSets : H264StreamInfo := { sps := [], pps := [], width := 0, height := 0, durationSecs := 0 }

/-- One SPS and one PPS, of one byte each. -/
def oneOfEach : Bytes :=
  [0x01, 0x64, 0x00, 0x1F, 0xFF, 0xE1, 0x00, 0x01, 0x67, 0x01, 0x00, 0x01, 0x68]

theorem oneOfEach_wellFormed : WellFormed oneOfEach [0x67] [0x68] :=
  ⟨[0x01, 0x64, 0x00, 0x1F, 0xFF], 0xE1, [[0x67]], 0x01, [], rfl, rfl, by decide, by decide, rfl,
    by decide, by decide, by decide, by decide⟩

theorem parseExtradata_exact_iff_oneOfEach :
    Reads (parseExtradata oneOfEach noSets) (WellFormed oneOfEach) :=
  (parseExtradata_exact_iff rfl rfl rfl).2.mpr
    (.inl ⟨by decide, fun _ _ => oneOfEach_wellFormed.not_misread⟩)

/-- Two SPS are counted, and the second one is cut short. -/
def cutSps : Bytes :=
  [0x01, 0x64, 0x00, 0x1F, 0xFF, 0xE2, 0x00, 0x01, 0x67, 0xFF, 0xFF, 0x01, 0x00, 0x01, 0x68]

theorem cutSps_misread : Misread cutSps [0x67] [0x68] :=
  ⟨[0x01, 0x64, 0x00, 0x1F, 0xFF], 0xE2, [[0x67]], 0xFF, 0xFF, 0x01, [], rfl, rfl, by decide,
    by decide, by decide, rfl, by decide, by decide, by decide, by decide⟩

/-- It is accepted with a PPS out of the bytes of the second SPS. -/
theorem cutSps_accepted :
    parseExtradata cutSps noSets = some (true, { noSets with sps := [0x67], pps := [0x68] }) ∧
      ¬ Reads (parseExtradata cutSps noSets) (WellFormed cutSps) := by
  have hparse : parseExtradata cutSps noSets =
      some (true, { noSets with sps := [0x67], pps := [0x68] }) := by decide +kernel
  refine ⟨hparse, fun h => ?_⟩
  obtain ⟨ok, info, heq, hok, -⟩ := h
  rw [hparse] at heq
  obtain ⟨rfl, -⟩ := Prod.mk.inj (Option.some.inj heq)
  obtain ⟨sps, pps, hrec⟩ := hok.mp rfl
  exact hrec.not_misread cutSps_misread

end MediaSource

end RtspServer
