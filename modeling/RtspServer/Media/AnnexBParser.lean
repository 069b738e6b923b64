/-
  Model of `media/AnnexBParser.hpp`: the start codes of a buffer and the NAL units between
  them. `split` runs the same loop as `splitView` and copies the bytes; both return the same
  lists here, so there is one definition.

  `checkedSplitView` and `checkedSplit` are the two functions once more with every access to the
  buffer checked; `checkedSplit_eq` connects them to `splitView`. Positions are natural
  numbers. Those of the loops are at most the size of the buffer, so no sum with a code's length
  goes beyond `size_t`; `startCodeLength` alone can be asked at any offset, and is the function
  of the source for those at which `offset + 4` does not wrap.
  `split_partitions`: what any buffer is split into. `split_join`: start codes in front of NAL
  units are taken off again.
-/
import RtspServer.Lib.ByteString

namespace RtspServer.AnnexBParser

open ByteString

/-- `startCodeLength`: 4 or 3 when a start code is at the offset, else 0. -/
def startCodeLength (data : Bytes) (offset : Nat) : Nat :=
  if [0, 0, 0, 1].isPrefixOf (data.drop offset) then 4
  else if [0, 0, 1].isPrefixOf (data.drop offset) then 3
  else 0

/-- The loop of `splitView` from position `i`, the current NAL unit starting at `nalStart`. A
    round goes on by at least one byte, so one more than the size is enough fuel. -/
def splitLoop (data : Bytes) : Nat → Nat → Nat → List Bytes
  | 0, _, _ => []
  | fuel + 1, i, nalStart =>
      if i < data.length then
        let sc := startCodeLength data i
        if 0 < sc then
          (if nalStart < i then [substr data nalStart (i - nalStart)] else []) ++
            splitLoop data fuel (i + sc) (i + sc)
        else splitLoop data fuel (i + 1) nalStart
      else if nalStart < data.length then [data.drop nalStart]
      else []

def splitView (data : Bytes) : List Bytes :=
  let sc := startCodeLength data 0
  splitLoop data (data.length + 1) sc (if sc ≠ 0 then sc else data.length)

/-! ## Checked accesses -/

/-- A chain `data[offset] == b0 && data[offset + 1] == b1 && ...`, `none` when a byte outside of
    the buffer is read. -/
def checkedMatch (data : Bytes) : Nat → Bytes → Option Bool
  | _, [] => some true
  | offset, b :: rest =>
      match data[offset]? with
      | none => none
      | some c => if c = b then checkedMatch data (offset + 1) rest else some false

/-- `startCodeLength` with its two comparisons of sizes, for offsets below `2^64 - 4`. -/
def checkedStartCodeLength (data : Bytes) (offset : Nat) : Option Nat :=
  match if offset + 4 ≤ data.length then checkedMatch data offset [0, 0, 0, 1] else some false with
  | none => none
  | some true => some 4
  | some false =>
      match if offset + 3 ≤ data.length then checkedMatch data offset [0, 0, 1] else some false with
      | none => none
      | some true => some 3
      | some false => some 0

/-- The loop of `splitView` and of `split`; `emplace` is what they do with a NAL unit from one
    position to another. `none` when an access is outside of the buffer, or the rounds do not
    suffice. -/
def checkedLoop {α : Type} (emplace : Nat → Nat → Option α) (data : Bytes) :
    Nat → Nat → Nat → Option (List α)
  | 0, _, _ => none
  | fuel + 1, i, nalStart =>
      if i < data.length then
        match checkedStartCodeLength data i with
        | none => none
        | some 0 => checkedLoop emplace data fuel (i + 1) nalStart
        | some sc =>
            if nalStart < i then
              (emplace nalStart i).bind fun nal =>
                (checkedLoop emplace data fuel (i + sc) (i + sc)).map (nal :: ·)
            else checkedLoop emplace data fuel (i + sc) (i + sc)
      else if nalStart < data.length then (emplace nalStart data.length).map ([·])
      else some []

def checkedRun {α : Type} (emplace : Nat → Nat → Option α) (data : Bytes) : Option (List α) :=
  match checkedStartCodeLength data 0 with
  | none => none
  | some sc =>
      checkedLoop emplace data (data.length + 1) sc (if sc ≠ 0 then sc else data.length)

/-- A span of the buffer. -/
structure View where
  start : Nat
  size : Nat
  deriving DecidableEq

/-- The bytes a span stands for. -/
def View.bytes (data : Bytes) (v : View) : Bytes := substr data v.start v.size

/-- `splitView`: the spans themselves. -/
def checkedSplitView (data : Bytes) : Option (List View) :=
  checkedRun (fun first last => some ⟨first, last - first⟩) data

/-- The bytes from one position to another, `none` when they are not all in the buffer. -/
def checkedCopy (data : Bytes) (first last : Nat) : Option Bytes :=
  if first ≤ last ∧ last ≤ data.length then some (substr data first (last - first)) else none

/-- `split`: copies of the bytes. -/
def checkedSplit (data : Bytes) : Option (List Bytes) := checkedRun (checkedCopy data) data

theorem checkedCopy_eq {data : Bytes} {first last : Nat} (hlt : first < last)
    (hle : last ≤ data.length) :
    checkedCopy data first last = some (View.bytes data ⟨first, last - first⟩) :=
  if_pos ⟨Nat.le_of_lt hlt, hle⟩

theorem checkedMatch_eq (data : Bytes) (offset : Nat) (pat : Bytes)
    (h : offset + pat.length ≤ data.length) :
    checkedMatch data offset pat = some (pat.isPrefixOf (data.drop offset)) := by
  induction pat generalizing offset with
  | nil => simp [checkedMatch]
  | cons b pat ih =>
      rw [List.length_cons] at h
      have hlt : offset < data.length := by omega
      rw [checkedMatch, List.getElem?_eq_getElem hlt, List.drop_eq_getElem_cons hlt,
        List.isPrefixOf_cons_cons]
      dsimp only
      split
      · next hb => rw [ih (offset + 1) (by omega), hb]; simp
      · next hb => simp [Ne.symm hb]

/-- A comparison that the size allows reads inside of the buffer; one that it does not allow
    would fail anyway. -/
theorem checkedMatch_guarded (data : Bytes) (offset : Nat) (pat : Bytes) (hpat : pat ≠ []) :
    (if offset + pat.length ≤ data.length then checkedMatch data offset pat else some false) =
      some (pat.isPrefixOf (data.drop offset)) := by
  split
  · next h => exact checkedMatch_eq data offset pat h
  · next h =>
      have hno : ¬ pat <+: data.drop offset := by
        intro hp
        have hlen := hp.length_le
        have hpos := List.length_pos_iff.mpr hpat
        rw [List.length_drop] at hlen
        omega
      rw [← List.isPrefixOf_iff_prefix] at hno
      rw [Bool.eq_false_iff.mpr hno]

/-- Every read of `startCodeLength` is inside of the buffer. -/
theorem checkedStartCodeLength_eq (data : Bytes) (offset : Nat) :
    checkedStartCodeLength data offset = some (startCodeLength data offset) := by
  have h4 := checkedMatch_guarded data offset [0, 0, 0, 1] (by decide)
  have h3 := checkedMatch_guarded data offset [0, 0, 1] (by decide)
  simp only [List.length_cons, List.length_nil, Nat.zero_add, Nat.reduceAdd] at h4 h3
  unfold checkedStartCodeLength startCodeLength
  rw [h4, h3]
  cases [0, 0, 0, 1].isPrefixOf (data.drop offset) with
  | true => rfl
  | false => cases [0, 0, 1].isPrefixOf (data.drop offset) <;> rfl

/-! ## Start codes -/

/-- The bytes contain no start code of three bytes, and then none of four. -/
def NoCode (s : Bytes) : Prop := ∀ k, ¬ [0, 0, 1] <+: s.drop k

theorem startCodeLength_drop (data : Bytes) (offset k : Nat) :
    startCodeLength (data.drop offset) k = startCodeLength data (offset + k) := by
  unfold startCodeLength
  rw [List.drop_drop]

theorem startCodeLength_eq_zero {data : Bytes} {offset : Nat} :
    startCodeLength data offset = 0 ↔ ¬ [0, 0, 0, 1] <+: data.drop offset ∧
      ¬ [0, 0, 1] <+: data.drop offset := by
  unfold startCodeLength
  rw [← List.isPrefixOf_iff_prefix, ← List.isPrefixOf_iff_prefix]
  split
  · next h => simp [h]
  · next h =>
      split
      · next h' => simp [h']
      · next h' => simp [h, h']

/-- Where the length is not 0 a start code of that length stands. -/
theorem substr_startCode {data : Bytes} {offset : Nat} (h : startCodeLength data offset ≠ 0) :
    offset + startCodeLength data offset ≤ data.length ∧
      (substr data offset (startCodeLength data offset) = [0, 0, 0, 1] ∨
        substr data offset (startCodeLength data offset) = [0, 0, 1]) := by
  have hcode : ∀ {pat : Bytes}, pat ≠ [] → pat.isPrefixOf (data.drop offset) = true →
      offset + pat.length ≤ data.length ∧ substr data offset pat.length = pat := by
    intro pat hne hp
    rw [List.isPrefixOf_iff_prefix] at hp
    have hlen := hp.length_le
    have hpos := List.length_pos_iff.mpr hne
    rw [List.length_drop] at hlen
    exact ⟨by omega, (List.prefix_iff_eq_take.mp hp).symm⟩
  unfold startCodeLength at h ⊢
  split
  · next h4 =>
      obtain ⟨hle, heq⟩ := hcode (by decide) h4
      exact ⟨hle, .inl heq⟩
  · next h4 =>
      rw [if_neg h4] at h
      split
      · next h3 =>
          obtain ⟨hle, heq⟩ := hcode (by decide) h3
          exact ⟨hle, .inr heq⟩
      · next h3 => exact absurd (if_neg h3) h

/-! ## What the loop finds -/

/-- The span from one position to another, if there is anything in it. -/
def spanOf (first last : Nat) : List View := if first < last then [⟨first, last - first⟩] else []

/-- No start code begins from one position up to another. -/
def Clean (data : Bytes) (first last : Nat) : Prop :=
  ∀ k, first ≤ k → k < last → startCodeLength data k = 0

/-- From the start of a NAL unit on: the NAL units that are not empty, and the start codes. -/
inductive Scanned (data : Bytes) : Nat → List View → List View → Prop where
  | last {p : Nat} (hle : p ≤ data.length) (hclean : Clean data p data.length) :
      Scanned data p (spanOf p data.length) []
  | next {p i : Nat} {views codes : List View} (hle : p ≤ i) (hclean : Clean data p i)
      (hcode : startCodeLength data i ≠ 0)
      (rest : Scanned data (i + startCodeLength data i) views codes) :
      Scanned data p (spanOf p i ++ views) (⟨i, startCodeLength data i⟩ :: codes)

/-- A whole buffer: nothing up to the first start code. -/
inductive Leads (data : Bytes) : List View → List View → Prop where
  | none (hclean : Clean data 0 data.length) : Leads data [] []
  | first {i : Nat} {views codes : List View} (hclean : Clean data 0 i)
      (hcode : startCodeLength data i ≠ 0)
      (rest : Scanned data (i + startCodeLength data i) views codes) :
      Leads data views (⟨i, startCodeLength data i⟩ :: codes)

theorem lt_length_of_code {data : Bytes} {i : Nat} (h : startCodeLength data i ≠ 0) :
    i < data.length := by
  have hle := (substr_startCode h).1
  omega

/-- The first start code from a position on is the only one. -/
theorem first_code_unique {data : Bytes} {p i j : Nat} (hi : Clean data p i) (hj : Clean data p j)
    (hpi : p ≤ i) (hpj : p ≤ j) (hci : startCodeLength data i ≠ 0)
    (hcj : startCodeLength data j ≠ 0) : i = j := by
  rcases Nat.lt_trichotomy i j with h | h | h
  · exact absurd (hj i hpi h) hci
  · exact h
  · exact absurd (hi j hpj h) hcj

theorem Scanned.unique {data : Bytes} {p : Nat} {views views' codes codes' : List View}
    (h : Scanned data p views codes) (h' : Scanned data p views' codes') : views = views' := by
  induction h generalizing views' codes' with
  | last hle hclean =>
      cases h' with
      | last => rfl
      | next hle' _ hcode _ => exact absurd (hclean _ hle' (lt_length_of_code hcode)) hcode
  | next hle hclean hcode _ ih =>
      cases h' with
      | last _ hclean' => exact absurd (hclean' _ hle (lt_length_of_code hcode)) hcode
      | next hle' hclean' hcode' rest' =>
          obtain rfl := first_code_unique hclean hclean' hle hle' hcode hcode'
          rw [ih rest']

theorem Leads.unique {data : Bytes} {views views' codes codes' : List View}
    (h : Leads data views codes) (h' : Leads data views' codes') : views = views' := by
  cases h with
  | none hclean =>
      cases h' with
      | none => rfl
      | first _ hcode _ =>
          exact absurd (hclean _ (Nat.zero_le _) (lt_length_of_code hcode)) hcode
  | first hclean hcode rest =>
      cases h' with
      | none hclean' => exact absurd (hclean' _ (Nat.zero_le _) (lt_length_of_code hcode)) hcode
      | first hclean' hcode' rest' =>
          obtain rfl := first_code_unique hclean hclean' (Nat.zero_le _) (Nat.zero_le _) hcode hcode'
          exact rest.unique rest'

section

variable {α : Type} {emplace : Nat → Nat → Option α} {g : View → α} {data : Bytes}

theorem checkedLoop_skip (fuel : Nat) {i nalStart : Nat} (hlt : i < data.length)
    (hcode : startCodeLength data i = 0) :
    checkedLoop emplace data (fuel + 1) i nalStart =
      checkedLoop emplace data fuel (i + 1) nalStart := by
  rw [checkedLoop, if_pos hlt, checkedStartCodeLength_eq, hcode]
  rfl

/-- A round at a start code emits the NAL unit in front of it. -/
theorem checkedLoop_code (hemplace : ∀ first last, first < last → last ≤ data.length →
      emplace first last = some (g ⟨first, last - first⟩)) (fuel : Nat) {i nalStart : Nat}
    (hcode : startCodeLength data i ≠ 0) :
    checkedLoop emplace data (fuel + 1) i nalStart =
      (checkedLoop emplace data fuel (i + startCodeLength data i)
        (i + startCodeLength data i)).map ((spanOf nalStart i).map g ++ ·) := by
  have hlt := lt_length_of_code hcode
  rw [checkedLoop, if_pos hlt, checkedStartCodeLength_eq]
  split
  · next h => cases h
  · next h => exact absurd (Option.some.inj h) hcode
  · next sc _ h =>
      obtain rfl := Option.some.inj h
      unfold spanOf
      split
      · next hspan => rw [hemplace _ _ hspan (Nat.le_of_lt hlt)]; rfl
      · simp

/-- The loop inside of a NAL unit. -/
theorem checkedLoop_scanned (hemplace : ∀ first last, first < last → last ≤ data.length →
      emplace first last = some (g ⟨first, last - first⟩)) (fuel : Nat) {i p : Nat}
    (hfuel : data.length < i + fuel) (hpi : p ≤ i) (hle : i ≤ data.length)
    (hclean : Clean data p i) :
    ∃ views codes, Scanned data p views codes ∧
      checkedLoop emplace data fuel i p = some (views.map g) := by
  induction fuel generalizing i p with
  | zero => omega
  | succ fuel ih =>
      rcases Nat.lt_or_ge i data.length with hlt | hge
      · by_cases hcode : startCodeLength data i = 0
        · rw [checkedLoop_skip fuel hlt hcode]
          refine ih (by omega) (by omega) (by omega) fun k hpk hk => ?_
          rcases Nat.lt_succ_iff_lt_or_eq.mp hk with hk | rfl
          · exact hclean k hpk hk
          · exact hcode
        · obtain ⟨views, codes, hscan, hloop⟩ := ih (i := i + startCodeLength data i)
            (p := i + startCodeLength data i) (by omega) (Nat.le_refl _) (substr_startCode hcode).1
            fun k hpk hk => by omega
          refine ⟨_, _, .next hpi hclean hcode hscan, ?_⟩
          rw [checkedLoop_code hemplace fuel hcode, hloop, Option.map_some, List.map_append]
      · obtain rfl : i = data.length := by omega
        refine ⟨_, _, .last hpi hclean, ?_⟩
        rw [checkedLoop, if_neg (Nat.lt_irrefl _)]
        unfold spanOf
        split
        · next hspan => rw [hemplace _ _ hspan (Nat.le_refl _)]; rfl
        · rfl

/-- The loop before the first start code, `nal_start` being the size of the buffer. -/
theorem checkedLoop_leads (hemplace : ∀ first last, first < last → last ≤ data.length →
      emplace first last = some (g ⟨first, last - first⟩)) (fuel : Nat) {i : Nat}
    (hfuel : data.length < i + fuel) (hle : i ≤ data.length) (hclean : Clean data 0 i) :
    ∃ views codes, Leads data views codes ∧
      checkedLoop emplace data fuel i data.length = some (views.map g) := by
  induction fuel generalizing i with
  | zero => omega
  | succ fuel ih =>
      rcases Nat.lt_or_ge i data.length with hlt | hge
      · by_cases hcode : startCodeLength data i = 0
        · rw [checkedLoop_skip fuel hlt hcode]
          refine ih (by omega) (by omega) fun k hpk hk => ?_
          rcases Nat.lt_succ_iff_lt_or_eq.mp hk with hk | rfl
          · exact hclean k hpk hk
          · exact hcode
        · obtain ⟨views, codes, hscan, hloop⟩ := checkedLoop_scanned hemplace fuel
            (i := i + startCodeLength data i) (by omega) (Nat.le_refl _)
            (substr_startCode hcode).1 fun k hpk hk => by omega
          refine ⟨_, _, .first hclean hcode hscan, ?_⟩
          have hnone : spanOf data.length i = [] := if_neg (by omega)
          rw [checkedLoop_code hemplace fuel hcode, hloop, hnone]
          rfl
      · obtain rfl : i = data.length := by omega
        refine ⟨_, _, .none hclean, ?_⟩
        rw [checkedLoop, if_neg (Nat.lt_irrefl _), if_neg (Nat.lt_irrefl _)]
        rfl

/-- Both functions find the same spans, with all accesses inside of the buffer. -/
theorem checkedRun_leads (hemplace : ∀ first last, first < last → last ≤ data.length →
      emplace first last = some (g ⟨first, last - first⟩)) :
    ∃ views codes, Leads data views codes ∧ checkedRun emplace data = some (views.map g) := by
  unfold checkedRun
  rw [checkedStartCodeLength_eq]
  dsimp only
  by_cases hcode : startCodeLength data 0 = 0
  · rw [hcode, if_neg (by simp)]
    exact checkedLoop_leads hemplace _ (by omega) (Nat.zero_le _) fun k _ hk => by omega
  · rw [if_pos hcode]
    obtain ⟨views, codes, hscan, hloop⟩ := checkedLoop_scanned hemplace (data.length + 1)
      (i := startCodeLength data 0) (p := startCodeLength data 0) (by omega) (Nat.le_refl _)
      (by have := (substr_startCode hcode).1; omega) fun k hpk hk => by omega
    refine ⟨views, ⟨0, startCodeLength data 0⟩ :: codes, .first (fun k _ hk => ?_) hcode ?_, hloop⟩
    · omega
    · rw [Nat.zero_add]
      exact hscan

end

/-! ## The two functions -/

theorem checkedSplitView_leads (data : Bytes) :
    ∃ views codes, Leads data views codes ∧ checkedSplitView data = some views := by
  have hemplace : ∀ first last, first < last → last ≤ data.length →
      some (⟨first, last - first⟩ : View) = some (id ⟨first, last - first⟩) :=
    fun _ _ _ _ => rfl
  obtain ⟨views, codes, hleads, hrun⟩ := checkedRun_leads hemplace
  refine ⟨views, codes, hleads, hrun.trans ?_⟩
  rw [List.map_id]

/-- `split` copies what `splitView` points to. -/
theorem checkedSplit_eq_map {data : Bytes} {views : List View}
    (h : checkedSplitView data = some views) :
    checkedSplit data = some (views.map (View.bytes data)) := by
  obtain ⟨views', codes', hleads', hrun⟩ := checkedRun_leads (fun _ _ => checkedCopy_eq)
  obtain ⟨views'', codes, hleads, hviews⟩ := checkedSplitView_leads data
  obtain rfl : views'' = views := Option.some.inj (hviews.symm.trans h)
  rw [checkedSplit, hrun, hleads'.unique hleads]

theorem splitLoop_eq (data : Bytes) (fuel i nalStart : Nat) {nals : List Bytes}
    (hle : nalStart ≤ i ∨ nalStart = data.length)
    (h : checkedLoop (checkedCopy data) data fuel i nalStart = some nals) :
    splitLoop data fuel i nalStart = nals := by
  induction fuel generalizing i nalStart nals with
  | zero => cases h
  | succ fuel ih =>
      rw [splitLoop]
      by_cases hlt : i < data.length
      · rw [if_pos hlt]
        dsimp only
        by_cases hcode : startCodeLength data i = 0
        · rw [checkedLoop_skip fuel hlt hcode] at h
          rw [hcode, if_neg (Nat.lt_irrefl 0)]
          exact ih _ _ (by omega) h
        · rw [checkedLoop_code (fun _ _ => checkedCopy_eq) fuel hcode] at h
          obtain ⟨rest, hrest, rfl⟩ := Option.map_eq_some_iff.mp h
          rw [if_pos (Nat.pos_of_ne_zero hcode), ih _ _ (.inl (Nat.le_refl _)) hrest]
          congr 1
          unfold spanOf
          split <;> rfl
      · rw [if_neg hlt]
        rw [checkedLoop, if_neg hlt] at h
        split
        · next hspan =>
            rw [if_pos hspan, checkedCopy, if_pos ⟨Nat.le_of_lt hspan, Nat.le_refl _⟩] at h
            obtain rfl := Option.some.inj h
            rw [substr, List.take_of_length_le (by rw [List.length_drop])]
        · next hspan =>
            rw [if_neg hspan] at h
            exact Option.some.inj h

/-- The checked `split` gives what `splitView` does. -/
theorem checkedSplit_eq (data : Bytes) : checkedSplit data = some (splitView data) := by
  obtain ⟨views, codes, hleads, hviews⟩ := checkedSplitView_leads data
  have hsplit := checkedSplit_eq_map hviews
  refine hsplit.trans (congrArg some ?_)
  unfold checkedSplit checkedRun at hsplit
  rw [checkedStartCodeLength_eq] at hsplit
  unfold splitView
  refine (splitLoop_eq data _ _ _ ?_ hsplit).symm
  split
  · exact .inl (Nat.le_refl _)
  · exact .inr rfl

/-! ## Any buffer -/

/-- The position is one of the span's. -/
def View.covers (v : View) (k : Nat) : Bool := decide (v.start ≤ k ∧ k < v.start + v.size)

/-- What a buffer is split into: the NAL units, and the start codes between them. -/
structure Splits (data : Bytes) (views codes : List View) : Prop where
  nonempty : ∀ v ∈ views, 0 < v.size
  inside : ∀ v ∈ views, v.start + v.size ≤ data.length
  ordered : views.Pairwise fun v w => v.start + v.size ≤ w.start
  clean : ∀ v ∈ views, NoCode (v.bytes data)
  preceded : ∀ v ∈ views, ∃ c ∈ codes, c.start + c.size = v.start
  codes_bytes : ∀ c ∈ codes, c.bytes data = [0, 0, 0, 1] ∨ c.bytes data = [0, 0, 1]
  covered : ∀ first k, startCodeLength data first ≠ 0 → first ≤ k → k < data.length →
    (views ++ codes).countP (·.covers k) = 1

theorem mem_spanOf {first last : Nat} {v : View} (h : v ∈ spanOf first last) :
    first < last ∧ v = ⟨first, last - first⟩ := by
  unfold spanOf at h
  split at h
  · next hlt => exact ⟨hlt, List.mem_singleton.mp h⟩
  · cases h

theorem countP_cons_covers (c : View) (spans : List View) (k : Nat) :
    (c :: spans).countP (·.covers k) =
      spans.countP (·.covers k) + if c.start ≤ k ∧ k < c.start + c.size then 1 else 0 := by
  rw [List.countP_cons]
  simp only [View.covers, decide_eq_true_eq]

theorem countP_spanOf {first last : Nat} (k : Nat) :
    (spanOf first last).countP (·.covers k) = if first ≤ k ∧ k < last then 1 else 0 := by
  unfold spanOf View.covers
  split
  · next hlt =>
      have hstop : first + (last - first) = last := by omega
      simp [List.countP_cons, hstop]
  · next hlt => rw [List.countP_nil, if_neg (by omega)]

/-- Without a start code at any of its positions a span contains none. -/
theorem noCode_bytes {data : Bytes} {first last : Nat} (h : Clean data first last) :
    NoCode (View.bytes data ⟨first, last - first⟩) := by
  intro k hk
  rw [View.bytes, substr, List.drop_take, List.drop_drop] at hk
  have hlen := hk.length_le
  rw [List.length_take] at hlen
  simp only [List.length_cons, List.length_nil] at hlen
  exact (startCodeLength_eq_zero.mp (h (first + k) (by omega) (by omega))).2
    (hk.trans (List.take_prefix _ _))

/-- The NAL units of a scan, each given by where it starts and stops. -/
theorem Scanned.mem_views {data : Bytes} {p : Nat} {views codes : List View}
    (h : Scanned data p views codes) {v : View} (hv : v ∈ views) :
    ∃ last, v.start < last ∧ v = ⟨v.start, last - v.start⟩ ∧ last ≤ data.length ∧ p ≤ v.start ∧
      Clean data v.start last ∧ (v.start = p ∨ ∃ c ∈ codes, c.start + c.size = v.start) := by
  induction h with
  | last hle hclean =>
      obtain ⟨hlt, rfl⟩ := mem_spanOf hv
      exact ⟨_, hlt, rfl, Nat.le_refl _, Nat.le_refl _, hclean, .inl rfl⟩
  | @next p i views codes hle hclean hcode _ ih =>
      rcases List.mem_append.mp hv with hv | hv
      · obtain ⟨hlt, rfl⟩ := mem_spanOf hv
        exact ⟨_, hlt, rfl, Nat.le_of_lt (lt_length_of_code hcode), Nat.le_refl _, hclean, .inl rfl⟩
      · obtain ⟨last, hlt, heq, hlast, hstart, hclean', hcodes⟩ := ih hv
        refine ⟨last, hlt, heq, hlast, by omega, hclean', .inr ?_⟩
        rcases hcodes with hstart | ⟨c, hc, hstart⟩
        · exact ⟨_, List.mem_cons_self, hstart.symm⟩
        · exact ⟨c, List.mem_cons_of_mem _ hc, hstart⟩

theorem Scanned.ordered {data : Bytes} {p : Nat} {views codes : List View}
    (h : Scanned data p views codes) :
    views.Pairwise fun v w => v.start + v.size ≤ w.start := by
  induction h with
  | last =>
      unfold spanOf
      split
      · exact List.pairwise_singleton _ _
      · exact List.Pairwise.nil
  | next hle _ _ hrest ih =>
      refine List.pairwise_append.mpr ⟨?_, ih, fun v hv w hw => ?_⟩
      · unfold spanOf
        split
        · exact List.pairwise_singleton _ _
        · exact List.Pairwise.nil
      · obtain ⟨hlt, rfl⟩ := mem_spanOf hv
        obtain ⟨_, _, _, _, hstart, _⟩ := hrest.mem_views hw
        dsimp only
        omega

theorem Scanned.codes_bytes {data : Bytes} {p : Nat} {views codes : List View}
    (h : Scanned data p views codes) {c : View} (hc : c ∈ codes) :
    c.bytes data = [0, 0, 0, 1] ∨ c.bytes data = [0, 0, 1] := by
  induction h with
  | last => cases hc
  | next _ _ hcode _ ih =>
      rcases List.mem_cons.mp hc with rfl | hc
      · exact (substr_startCode hcode).2
      · exact ih hc

/-- Each position from the start of the scan on is in one NAL unit or in one start code. -/
theorem Scanned.countP_covers {data : Bytes} {p : Nat} {views codes : List View}
    (h : Scanned data p views codes) {k : Nat} (hk : k < data.length) :
    (views ++ codes).countP (·.covers k) = if p ≤ k then 1 else 0 := by
  induction h with
  | last hle hclean =>
      rw [List.append_nil, countP_spanOf]
      simp only [hk, and_true]
  | @next p i views codes hle hclean hcode _ ih =>
      rw [List.countP_append] at ih
      rw [List.append_assoc, List.countP_append, List.countP_append, countP_cons_covers,
        countP_spanOf, ← Nat.add_assoc (views.countP _), ih]
      dsimp only
      split <;> split <;> split <;> split <;> omega

/-- Whatever the bytes are: all reads of `startCodeLength`, `splitView` and `split` are inside of
    the buffer, for the first one where its sums of sizes do not wrap, and what the two others
    find are NAL units without a start code in them, each behind a start code. Each byte from the
    first start code on is in one of either. -/
theorem split_partitions (data : Bytes) :
    (∀ offset, offset + 4 < 2 ^ 64 →
        checkedStartCodeLength data offset = some (startCodeLength data offset)) ∧
      ∃ views codes, checkedSplitView data = some views ∧
        checkedSplit data = some (views.map (View.bytes data)) ∧ Splits data views codes := by
  refine ⟨fun offset _ => checkedStartCodeLength_eq data offset, ?_⟩
  obtain ⟨views, codes, hleads, hviews⟩ := checkedSplitView_leads data
  refine ⟨views, codes, hviews, checkedSplit_eq_map hviews, ?_⟩
  cases hleads with
  | none hclean =>
      refine ⟨?_, ?_, List.Pairwise.nil, ?_, ?_, ?_, fun first _ hcode hle hk => ?_⟩ <;>
        try exact fun v hv => absurd hv List.not_mem_nil
      exact absurd (hclean first (Nat.zero_le _) (by omega)) hcode
  | @first i _ codes hclean hcode hscan =>
      refine ⟨fun v hv => ?_, fun v hv => ?_, hscan.ordered, fun v hv => ?_, fun v hv => ?_,
        fun c hc => ?_, fun first k hfirst hle hk => ?_⟩
      · obtain ⟨_, hlt, heq, _⟩ := hscan.mem_views hv
        rw [heq]
        dsimp only
        omega
      · obtain ⟨_, hlt, heq, hlast, _⟩ := hscan.mem_views hv
        rw [heq]
        dsimp only
        omega
      · obtain ⟨_, hlt, heq, _, _, hclean', _⟩ := hscan.mem_views hv
        rw [heq]
        exact noCode_bytes hclean'
      · obtain ⟨_, _, _, _, _, _, hstart | ⟨c, hc, hstart⟩⟩ := hscan.mem_views hv
        · exact ⟨_, List.mem_cons_self, hstart.symm⟩
        · exact ⟨c, List.mem_cons_of_mem _ hc, hstart⟩
      · rcases List.mem_cons.mp hc with rfl | hc
        · exact (substr_startCode hcode).2
        · exact hscan.codes_bytes hc
      · have hik : i ≤ k := by
          rcases Nat.lt_or_ge first i with h | h
          · exact absurd (hclean first (Nat.zero_le _) h) hfirst
          · exact Nat.le_trans h hle
        have hcount := hscan.countP_covers hk
        rw [List.countP_append] at hcount
        rw [List.countP_append, countP_cons_covers, ← Nat.add_assoc, hcount]
        dsimp only
        split <;> split <;> omega

/-! ## Start codes in front of NAL units -/

/-- The start code of 4 bytes or of 3. -/
def startCode (long : Bool) : Bytes := if long then [0, 0, 0, 1] else [0, 0, 1]

/-- NAL units with a start code in front of each. -/
def join : List (Bool × Bytes) → Bytes
  | [] => []
  | (long, nal) :: units => startCode long ++ nal ++ join units

/-- No start code can begin in these bytes, whatever follows. -/
structure Closed (s : Bytes) : Prop where
  noCode : NoCode s
  last : s.getLast? ≠ some 0

theorem Closed.drop {s : Bytes} (h : Closed s) (k : Nat) : Closed (s.drop k) := by
  refine ⟨fun j hj => h.noCode (k + j) ?_, ?_⟩
  · rw [List.drop_drop] at hj
    exact hj
  · rw [List.getLast?_drop]
    split
    · exact Option.some_ne_none _ |>.symm
    · exact h.last

/-- A code that begins in the bytes either lies in them or needs their last one to be 0. -/
theorem Closed.startCodeLength {s : Bytes} (h : Closed s) (hne : s ≠ []) (t : Bytes) :
    startCodeLength (s ++ t) 0 = 0 := by
  have h0 := h.noCode 0
  have h1 := h.noCode 1
  have hlast := h.last
  rw [startCodeLength_eq_zero, List.drop_zero]
  match s with
  | [a] =>
      have ha : (0 : UInt8) ≠ a := fun h => hlast (congrArg some h.symm)
      simp [ha]
  | [a, b] =>
      have hb : (0 : UInt8) ≠ b := fun h => hlast (congrArg some h.symm)
      simp [hb]
  | [a, b, c] =>
      have hc : (0 : UInt8) ≠ c := fun h => hlast (congrArg some h.symm)
      simp_all
  | a :: b :: c :: d :: s => simp_all

theorem Closed.clean {s t : Bytes} (h : Closed s) {data : Bytes} {p : Nat}
    (hdata : data.drop p = s ++ t) : Clean data p (p + s.length) := by
  intro k hpk hk
  obtain ⟨j, rfl⟩ := Nat.exists_eq_add_of_le hpk
  have hne : s.drop j ≠ [] := by
    rw [ne_eq, List.drop_eq_nil_iff]
    omega
  have hcode := (h.drop j).startCodeLength hne t
  rw [← startCodeLength_drop, hdata, ← Nat.add_zero j, ← startCodeLength_drop,
    List.drop_append_of_le_length (by omega)]
  exact hcode

theorem startCodeLength_startCode {data t : Bytes} {i : Nat} {long : Bool}
    (h : data.drop i = startCode long ++ t) :
    startCodeLength data i = (startCode long).length := by
  unfold startCodeLength
  rw [h]
  cases long with
  | true => rfl
  | false => simp [startCode]

theorem spanOf_bytes {data nal t : Bytes} {p : Nat} (hdata : data.drop p = nal ++ t)
    (hne : nal ≠ []) :
    p + nal.length ≤ data.length ∧
      (spanOf p (p + nal.length)).map (View.bytes data) = [nal] := by
  have hpos := List.length_pos_iff.mpr hne
  have hlen := congrArg List.length hdata
  rw [List.length_drop, List.length_append] at hlen
  refine ⟨by omega, ?_⟩
  rw [spanOf, if_pos (by omega), List.map_singleton, View.bytes, substr, hdata,
    Nat.add_sub_cancel_left, List.take_left]

/-- From the start of a NAL unit on the scan finds that unit and the ones after it. -/
theorem scanned_join {data nal : Bytes} {p : Nat} (units : List (Bool × Bytes))
    (hdata : data.drop p = nal ++ join units) (hne : nal ≠ []) (hnal : Closed nal)
    (hunits : ∀ u ∈ units, u.2 ≠ [] ∧ Closed u.2) :
    ∃ views codes, Scanned data p views codes ∧
      views.map (View.bytes data) = nal :: units.map Prod.snd := by
  induction units generalizing nal p with
  | nil =>
      obtain ⟨hle, hspan⟩ := spanOf_bytes hdata hne
      obtain hstop : p + nal.length = data.length := by
        have hlen := congrArg List.length hdata
        rw [List.length_drop, join, List.append_nil] at hlen
        omega
      have hclean := hnal.clean hdata
      rw [hstop] at hclean hspan
      exact ⟨_, _, .last (by omega) hclean, hspan⟩
  | cons u units ih =>
      obtain ⟨long, nal'⟩ := u
      have hstart : data.drop (p + nal.length) = startCode long ++ (nal' ++ join units) := by
        rw [← List.drop_drop, hdata, List.drop_left, join, List.append_assoc]
      have hcode := startCodeLength_startCode hstart
      have hrest : data.drop (p + nal.length + startCodeLength data (p + nal.length)) =
          nal' ++ join units := by
        rw [← List.drop_drop, hstart, hcode, List.drop_left]
      obtain ⟨hne', hnal'⟩ := hunits _ List.mem_cons_self
      obtain ⟨views, codes, hscan, hviews⟩ := ih hrest hne' hnal'
        fun u hu => hunits u (List.mem_cons_of_mem _ hu)
      obtain ⟨hle, hspan⟩ := spanOf_bytes hdata hne
      refine ⟨_, _, .next (by omega) (hnal.clean hdata) ?_ hscan, ?_⟩
      · rw [hcode]
        cases long <;> decide
      · rw [List.map_append, hspan, hviews]
        rfl

/-- `splitView` and `split` undo `join`, and drop bytes in front of the first start code. -/
theorem split_join (junk : Bytes) (units : List (Bool × Bytes)) (hjunk : Closed junk)
    (hunits : ∀ u ∈ units, u.2 ≠ [] ∧ Closed u.2) :
    (checkedSplitView (junk ++ join units)).map (·.map (View.bytes (junk ++ join units))) =
        some (units.map Prod.snd) ∧
      checkedSplit (junk ++ join units) = some (units.map Prod.snd) := by
  generalize hdata : junk ++ join units = data
  have hfound : ∃ views codes, Leads data views codes ∧
      views.map (View.bytes data) = units.map Prod.snd := by
    have hclean : Clean data 0 (0 + junk.length) := hjunk.clean hdata.symm
    rw [Nat.zero_add] at hclean
    cases units with
    | nil =>
        rw [join, List.append_nil] at hdata
        rw [hdata] at hclean
        exact ⟨_, _, .none hclean, rfl⟩
    | cons u units =>
        obtain ⟨long, nal⟩ := u
        have hstart : data.drop junk.length = startCode long ++ (nal ++ join units) := by
          rw [← hdata, List.drop_left, join, List.append_assoc]
        have hcode := startCodeLength_startCode hstart
        have hrest : data.drop (junk.length + startCodeLength data junk.length) =
            nal ++ join units := by
          rw [← List.drop_drop, hstart, hcode, List.drop_left]
        obtain ⟨hne, hnal⟩ := hunits _ List.mem_cons_self
        obtain ⟨views, codes, hscan, hviews⟩ := scanned_join units hrest hne hnal
          fun u hu => hunits u (List.mem_cons_of_mem _ hu)
        refine ⟨_, _, .first hclean ?_ hscan, hviews⟩
        rw [hcode]
        cases long <;> decide
  obtain ⟨views, codes, hleads, hviews⟩ := hfound
  obtain ⟨views', codes', hleads', hsplit⟩ := checkedSplitView_leads data
  obtain rfl := hleads'.unique hleads
  rw [checkedSplit_eq_map hsplit, hsplit, Option.map_some, hviews]
  exact ⟨rfl, rfl⟩

/-- Two units behind one byte of junk, the second with the longer start code. -/
theorem split_join_two :
    checkedSplit [7, 0, 0, 1, 65, 0, 0, 0, 1, 66] = some [[65], [66]] :=
  have hclosed : ∀ b : UInt8, b ≠ 0 → Closed [b] := fun b hb =>
    ⟨fun k hk => by have := hk.length_le; simp at this; omega, by simpa using hb⟩
  (split_join [7] [(false, [65]), (true, [66])] (hclosed 7 (by decide)) (by
    intro u hu
    rcases List.mem_cons.mp hu with rfl | hu
    · exact ⟨by decide, hclosed 65 (by decide)⟩
    · obtain rfl := List.mem_singleton.mp hu
      exact ⟨by decide, hclosed 66 (by decide)⟩)).2

end RtspServer.AnnexBParser
