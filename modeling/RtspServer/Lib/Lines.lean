/-
  Text protocols with a line separator `sep` and a blank line that ends a header. Names
  nothing of the server.

  `Free sep l`: the separator does not begin inside `l`, also not with its first bytes in `l`
  and the rest in the separator that ends the line. `Block sep` is a first line, then
  non-empty lines, then the blank line; its fields carry that every line is `Free`.

  Proved:
  * `exists_block`: the first occurrence of `sep ++ sep` in a text is the end of exactly one
    block at the start of the text.
  * `Block.read_lines`: reading line by line gives back the lines of the block and stops right
    behind it.
  * `indexOf_field`: searching `sep ++ key` in a block finds the first line that starts with
    `key`, and nothing that is not a line of the block.
  * `free_of_not_infix`: a text without the separator is `Free`.
  * `Free.append`, `Free.within`: which texts put together from `Free` ones, or cut out of one,
    are `Free`.
-/
import RtspServer.Lib.ByteString

namespace Lines

open ByteString

/-- The separator does not begin inside `l`. -/
def Free (sep l : Bytes) : Prop := indexOf sep (l ++ sep) = some l.length

instance (sep l : Bytes) : Decidable (Free sep l) := inferInstanceAs (Decidable (_ = _))

/-- A separator that does not overlap itself, and is not empty. -/
def NoOverlap (sep : Bytes) : Prop :=
  0 < sep.length ∧ ∀ j, 0 < j → j < sep.length → ∀ t : Bytes, ¬ sep <+: (sep ++ t).drop j

theorem Free.indexOf_eq {sep l : Bytes} (h : Free sep l) (r : Bytes) :
    indexOf sep (l ++ (sep ++ r)) = some l.length := by
  rw [← List.append_assoc]
  exact indexOf_append h r

theorem free_of_indexOf {sep l r : Bytes}
    (h : indexOf sep (l ++ (sep ++ r)) = some l.length) : Free sep l := by
  obtain ⟨_, _, hmin⟩ := indexOf_some h
  refine indexOf_eq_some (by simp) (by simp) fun j hj hp => hmin j hj ?_
  rw [← List.append_assoc, List.drop_append_of_le_length (by simp; omega)]
  exact hp.trans (List.prefix_append _ _)

/-- The text before the first separator is `Free`, and the text is put together again from
    it, the separator and the rest. -/
theorem free_take {sep s : Bytes} {i : Nat} (h : indexOf sep s = some i) :
    Free sep (s.take i) ∧ s = s.take i ++ (sep ++ s.drop (i + sep.length)) ∧
      (s.take i).length = i := by
  obtain ⟨hp, hlen, _⟩ := indexOf_some h
  have hl : (s.take i).length = i := by simp; omega
  have hs : s = s.take i ++ (sep ++ s.drop (i + sep.length)) := by
    conv => lhs; rw [← List.take_append_drop i s]
    rw [← List.drop_drop, List.prefix_iff_eq_append.mp hp]
  refine ⟨free_of_indexOf (r := s.drop (i + sep.length)) ?_, hs, hl⟩
  rw [← hs, hl]
  exact h

theorem Free.of_append {sep a b : Bytes} (h : Free sep (a ++ b)) : Free sep b := by
  obtain ⟨_, _, hmin⟩ := indexOf_some h
  refine indexOf_eq_some (by simp) (by simp) fun j hj hp => ?_
  refine hmin (a.length + j) (by simp; omega) ?_
  rw [List.append_assoc, List.drop_append, List.drop_eq_nil_of_le (by omega), List.nil_append,
    Nat.add_sub_cancel_left]
  exact hp

/-! ## Blocks -/

/-- A header: the first line, the non-empty lines after it, and the blank line. -/
structure Block (sep : Bytes) where
  first : Bytes
  lines : List Bytes
  first_free : Free sep first
  lines_free : ∀ l ∈ lines, l ≠ [] ∧ Free sep l

/-- Lines, each ended by the separator. -/
def joinLines (sep : Bytes) (lines : List Bytes) : Bytes := lines.flatMap (· ++ sep)

variable {sep : Bytes}

/-- The bytes of the block, up to and including the blank line. -/
def Block.text (b : Block sep) : Bytes := b.first ++ (sep ++ (joinLines sep b.lines ++ sep))

theorem joinLines_cons (l : Bytes) (ls : List Bytes) :
    joinLines sep (l :: ls) = l ++ (sep ++ joinLines sep ls) := by
  simp [joinLines]

/-- A line that is not empty and `Free` does not begin with the separator. -/
theorem not_prefix_of_free {l r : Bytes} (hl : l ≠ []) (hf : Free sep l) :
    ¬ sep <+: l ++ (sep ++ r) := by
  intro hp
  have h0 := indexOf_of_prefix hp
  rw [hf.indexOf_eq] at h0
  exact hl (List.length_eq_zero_iff.mp (Option.some.inj h0))

/-- The first blank line of a text ends a block at its start. The induction is on the length
    of the text: the first line is cut off and the blank line searched in the rest. -/
theorem exists_block (hsep : NoOverlap sep) {s : Bytes} {e : Nat}
    (h : indexOf (sep ++ sep) s = some e) :
    ∃ (b : Block sep) (rest : Bytes), s = b.text ++ rest ∧ e + 2 * sep.length = b.text.length := by
  induction hn : s.length using Nat.strong_induction_on generalizing s e with
  | _ n ih =>
      obtain ⟨he, hlen, _⟩ := indexOf_some h
      have hsome : ∃ i, indexOf sep s = some i := by
        cases hi : indexOf sep s with
        | some i => exact ⟨i, rfl⟩
        | none =>
            exact absurd ((List.prefix_append sep sep).trans he)
              (indexOf_none hi e (by omega))
      obtain ⟨i, hi⟩ := hsome
      obtain ⟨hfree, hs, hil⟩ := free_take hi
      have htag := indexOf_tagged sep hsep.2 (hfree.indexOf_eq (s.drop (i + sep.length)))
      rw [← hs, h] at htag
      split at htag
      · next hblank =>
          -- the blank line follows the first line directly
          obtain ⟨t, ht⟩ := hblank
          refine ⟨⟨s.take i, [], hfree, by simp⟩, t, ?_, ?_⟩
          · conv => lhs; rw [hs]
            simp [Block.text, joinLines, ← ht]
          · cases htag
            simp only [Block.text, joinLines, List.flatMap_nil, List.length_append,
              List.length_nil]
            omega
      · next hblank =>
          obtain ⟨k, hk, hke⟩ := Option.map_eq_some_iff.mp htag.symm
          have hpos := hsep.1
          obtain ⟨b, rest, hb, hbl⟩ := ih (s.drop (i + sep.length)).length
            (by rw [← hn]; simp only [List.length_drop, List.length_append] at *; omega) hk rfl
          have hne : b.first ≠ [] := by
            intro h0
            refine hblank ?_
            rw [hb, Block.text, h0]
            simp
          refine ⟨⟨s.take i, b.first :: b.lines, hfree, ?_⟩, rest, ?_, ?_⟩
          · intro l hl
            rcases List.mem_cons.mp hl with rfl | hl
            · exact ⟨hne, b.first_free⟩
            · exact b.lines_free l hl
          · conv => lhs; rw [hs, hb]
            simp [Block.text, joinLines_cons]
          · simp only [Block.text, joinLines_cons, List.length_append] at hbl ⊢
            omega

/-- A block followed by anything has its blank line where its text ends. -/
theorem indexOf_blank (hsep : NoOverlap sep) :
    ∀ (lines : List Bytes) (first rest : Bytes), Free sep first →
      (∀ l ∈ lines, l ≠ [] ∧ Free sep l) →
      indexOf (sep ++ sep) (first ++ (sep ++ (joinLines sep lines ++ (sep ++ rest)))) =
        some (first.length + (joinLines sep lines).length)
  | [], first, rest, hf, _ => by
      rw [indexOf_tagged _ hsep.2 (hf.indexOf_eq _), if_pos (by simp [joinLines])]
      simp [joinLines]
  | l :: ls, first, rest, hf, hl => by
      have hl0 := hl l (by simp)
      have ih := indexOf_blank hsep ls l rest hl0.2 (fun m hm => hl m (by simp [hm]))
      have hnot : ¬ sep <+: joinLines sep (l :: ls) ++ (sep ++ rest) := by
        rw [joinLines_cons, List.append_assoc, List.append_assoc]
        exact not_prefix_of_free hl0.1 hl0.2
      rw [indexOf_tagged _ hsep.2 (hf.indexOf_eq _), if_neg hnot]
      rw [joinLines_cons, List.append_assoc, List.append_assoc, ih]
      simp only [Option.map_some, List.length_append]
      congr 1
      omega

theorem Block.indexOf_blank (hsep : NoOverlap sep) (b : Block sep) (rest : Bytes) :
    ∃ e, indexOf (sep ++ sep) (b.text ++ rest) = some e ∧ e + 2 * sep.length = b.text.length := by
  refine ⟨b.first.length + (joinLines sep b.lines).length, ?_, ?_⟩
  · have := Lines.indexOf_blank hsep b.lines b.first rest b.first_free b.lines_free
    simpa [Block.text] using this
  · simp only [Block.text, List.length_append]
    omega

/-! ## Reading line by line -/

/-- The line up to the next separator, and the text after it. -/
def nextLine (sep rest : Bytes) : Option (Bytes × Bytes) :=
  (indexOf sep rest).map fun i => (rest.take i, rest.drop (i + sep.length))

theorem nextLine_of_free {l : Bytes} (hf : Free sep l) (r : Bytes) :
    nextLine sep (l ++ (sep ++ r)) = some (l, r) := by
  simp only [nextLine, hf.indexOf_eq, Option.map_some, List.take_left']
  rw [← List.append_assoc, ← List.length_append, List.drop_left]

/-- The lines up to the blank one, and the text behind it. -/
def linesUntilBlank (sep : Bytes) : Nat → Bytes → List Bytes × Bytes
  | 0, rest => ([], rest)
  | fuel + 1, rest =>
      match nextLine sep rest with
      | none => ([], rest)
      | some (line, rest') =>
          if line = [] then ([], rest')
          else
            let r := linesUntilBlank sep fuel rest'
            (line :: r.1, r.2)

theorem linesUntilBlank_join (hfree : Free sep []) :
    ∀ (lines : List Bytes) (rest : Bytes) (fuel : Nat), lines.length < fuel →
      (∀ l ∈ lines, l ≠ [] ∧ Free sep l) →
      linesUntilBlank sep fuel (joinLines sep lines ++ (sep ++ rest)) = (lines, rest)
  | [], rest, fuel + 1, _, _ => by
      have h := nextLine_of_free hfree rest
      rw [List.nil_append] at h
      simp [linesUntilBlank, joinLines, h]
  | l :: ls, rest, fuel + 1, hlt, hl => by
      have hl0 := hl l (by simp)
      have ih := linesUntilBlank_join hfree ls rest fuel (by simpa using hlt)
        (fun m hm => hl m (by simp [hm]))
      rw [joinLines_cons, List.append_assoc, List.append_assoc, linesUntilBlank,
        nextLine_of_free hl0.2]
      simp [hl0.1, ih]

theorem length_le_joinLines (hsep : NoOverlap sep) (lines : List Bytes) :
    lines.length ≤ (joinLines sep lines).length := by
  have hpos := hsep.1
  induction lines with
  | nil => simp
  | cons l ls ih =>
      rw [joinLines_cons]
      simp only [List.length_cons, List.length_append]
      omega

/-- Reading the lines of a block, with what follows it left over. -/
theorem Block.read_lines (hsep : NoOverlap sep) (b : Block sep) (rest : Bytes) :
    ∃ tail, nextLine sep (b.text ++ rest) = some (b.first, tail) ∧
      linesUntilBlank sep tail.length tail = (b.lines, rest) := by
  refine ⟨joinLines sep b.lines ++ (sep ++ rest), ?_, ?_⟩
  · have := nextLine_of_free b.first_free (joinLines sep b.lines ++ (sep ++ rest))
    simpa [Block.text] using this
  · have hpos := hsep.1
    have hfree : Free sep [] := indexOf_of_prefix (by simp)
    refine linesUntilBlank_join hfree b.lines rest _ ?_ b.lines_free
    have := length_le_joinLines hsep b.lines
    simp only [List.length_append]
    omega

/-- A text that is nothing but lines. -/
def linesOf (sep : Bytes) : Nat → Bytes → Option (List Bytes)
  | _, [] => some []
  | 0, _ => none
  | fuel + 1, s =>
      match nextLine sep s with
      | none => none
      | some (line, rest) => (linesOf sep fuel rest).map (line :: ·)

theorem linesOf_join (hsep : NoOverlap sep) {lines : List Bytes} (hl : ∀ l ∈ lines, Free sep l)
    {fuel : Nat} (hlt : lines.length ≤ fuel) :
    linesOf sep fuel (joinLines sep lines) = some lines := by
  induction lines generalizing fuel with
  | nil => cases fuel <;> rfl
  | cons l ls ih =>
      obtain ⟨hl0, hls⟩ := List.forall_mem_cons.mp hl
      rw [List.length_cons] at hlt
      obtain ⟨fuel, rfl⟩ : ∃ n, fuel = n + 1 := Nat.exists_eq_succ_of_ne_zero (by omega)
      have hne : joinLines sep (l :: ls) ≠ [] := by
        have hpos := hsep.1
        rw [joinLines_cons, Ne, ← List.length_eq_zero_iff]
        simp only [List.length_append]
        omega
      rw [linesOf, joinLines_cons, nextLine_of_free hl0]
      · have hrest : linesOf sep fuel (joinLines sep ls) = some ls := ih hls (by omega)
        simp only [hrest, Option.map_some]
      · exact fun h => hne h

/-! ## Searching a field -/

/-- A key that avoids the first byte of what follows `l` begins `l ++ c :: r` only inside `l`. -/
theorem prefix_append_cons_iff {key l r : Bytes} {c : UInt8} (hc : c ∉ key) :
    key <+: l ++ c :: r ↔ key <+: l := by
  constructor
  · intro h
    rcases Nat.lt_or_ge l.length key.length with hlt | hge
    · exfalso
      have hp : l ++ [c] <+: key :=
        List.prefix_of_prefix_length_le ⟨r, by simp⟩ h (by simp; omega)
      exact hc (hp.subset (by simp))
    · exact List.prefix_of_prefix_length_le h (List.prefix_append _ _) hge
  · intro h
    exact h.trans (List.prefix_append _ _)

/-- Searching `sep ++ key` in a block finds its first line that starts with `key`, and fails
    when there is none. The induction is on the lines; each step searches past one separator. -/
theorem indexOf_field {c : UInt8} {sep' key : Bytes} (hsep : NoOverlap (c :: sep'))
    (hc : c ∉ key) (hkey : key ≠ []) :
    ∀ (lines : List Bytes) (first : Bytes), Free (c :: sep') first →
      (∀ l ∈ lines, l ≠ [] ∧ Free (c :: sep') l) →
      match lines.find? (fun l => decide (key <+: l)) with
      | none => indexOf (c :: sep' ++ key)
          (first ++ (c :: sep' ++ (joinLines (c :: sep') lines ++ (c :: sep')))) = none
      | some l => ∃ i r,
          indexOf (c :: sep' ++ key)
            (first ++ (c :: sep' ++ (joinLines (c :: sep') lines ++ (c :: sep')))) = some i ∧
          (first ++ (c :: sep' ++ (joinLines (c :: sep') lines ++ (c :: sep')))).drop i =
            c :: sep' ++ (l ++ (c :: sep' ++ r))
  | [], first, hf, _ => by
      have hempty : Free (c :: sep') [] := indexOf_of_prefix (by simp)
      have hend : indexOf (c :: sep' ++ key) (c :: sep') = none := by
        refine indexOf_eq_none fun j _ hp => ?_
        have h1 := hp.length_le
        have h2 : 0 < key.length := List.length_pos_iff.mpr hkey
        simp only [List.length_append, List.length_drop, List.length_cons] at h1
        omega
      have hnot : ¬ key <+: joinLines (c :: sep') [] ++ (c :: sep') := by
        rw [show joinLines (c :: sep') [] ++ (c :: sep') = [] ++ c :: sep' from rfl,
          prefix_append_cons_iff hc]
        simpa using hkey
      simp only [List.find?_nil]
      rw [indexOf_tagged _ hsep.2 (hf.indexOf_eq _), if_neg hnot]
      simp only [joinLines, List.flatMap_nil, List.nil_append]
      rw [hend]
      rfl
  | l :: ls, first, hf, hl => by
      have hl0 := hl l (by simp)
      have ih := indexOf_field hsep hc hkey ls l hl0.2 (fun m hm => hl m (by simp [hm]))
      have hjoin : joinLines (c :: sep') (l :: ls) ++ (c :: sep') =
          l ++ (c :: sep' ++ (joinLines (c :: sep') ls ++ (c :: sep'))) := by
        simp [joinLines_cons]
      have htag := indexOf_tagged key hsep.2
        (hf.indexOf_eq (joinLines (c :: sep') (l :: ls) ++ (c :: sep')))
      rw [hjoin] at htag ⊢
      have hpre : key <+: l ++ (c :: sep' ++ (joinLines (c :: sep') ls ++ (c :: sep'))) ↔
          key <+: l := prefix_append_cons_iff hc
      by_cases hk : key <+: l
      · rw [if_pos (hpre.mpr hk)] at htag
        rw [List.find?_cons_of_pos (by simpa using hk)]
        exact ⟨_, _, htag, by rw [List.drop_left]⟩
      · rw [if_neg (fun h => hk (hpre.mp h))] at htag
        rw [List.find?_cons_of_neg (by simpa using hk)]
        cases hfind : ls.find? (fun l => decide (key <+: l)) with
        | none =>
            rw [hfind] at ih
            rw [htag, ih]
            rfl
        | some m =>
            rw [hfind] at ih
            obtain ⟨i, r, hi, hdrop⟩ := ih
            refine ⟨first.length + (c :: sep').length + i, r, by rw [htag, hi]; rfl, ?_⟩
            rw [← hdrop, ← List.append_assoc first, ← List.length_append, List.drop_append,
              List.drop_eq_nil_of_le (by omega), List.nil_append, Nat.add_sub_cancel_left]

/-! ## Texts without the separator -/

/-- Nothing of the text begins the separator: it is `Free`. -/
theorem free_iff {l : Bytes} : Free sep l ↔ ∀ j, j < l.length → ¬ sep <+: (l ++ sep).drop j := by
  constructor
  · intro h
    exact (indexOf_some h).2.2
  · intro h
    exact indexOf_eq_some (by simp) (by simp) h

/-- A text in front that does not have the first byte of the separator. -/
theorem Free.prepend {c : UInt8} {sep' a b : Bytes} (hb : Free (c :: sep') b) (ha : c ∉ a) :
    Free (c :: sep') (a ++ b) := by
  rw [free_iff] at hb ⊢
  intro j hj hp
  by_cases hja : j < a.length
  · rw [List.append_assoc, List.drop_append_of_le_length (by omega),
      List.drop_eq_getElem_cons hja] at hp
    exact ha (by rw [(List.cons_prefix_cons.mp hp).1]; exact List.getElem_mem hja)
  · obtain ⟨k, rfl⟩ := Nat.exists_eq_add_of_le (Nat.le_of_not_lt hja)
    rw [List.append_assoc, List.drop_length_add_append] at hp
    rw [List.length_append] at hj
    exact hb k (by omega) hp

theorem free_of_not_mem {c : UInt8} {sep' l : Bytes} (h : c ∉ l) : Free (c :: sep') l := by
  have hnil : Free (c :: sep') [] := indexOf_of_prefix (by simp)
  rw [← List.append_nil l]
  exact hnil.prepend h

/-- Two texts, the second of which begins with a byte that the separator does not have. -/
theorem Free.append {a b : Bytes} {d : UInt8} (ha : Free sep a) (hb : Free sep (d :: b))
    (hd : d ∉ sep) : Free sep (a ++ d :: b) := by
  rw [free_iff] at ha hb ⊢
  intro j hj hp
  by_cases hja : j < a.length
  · rw [List.append_assoc, List.drop_append_of_le_length (by omega), List.cons_append,
      prefix_append_cons_iff hd] at hp
    refine ha j hja ?_
    rw [List.drop_append_of_le_length (by omega)]
    exact hp.trans (List.prefix_append _ _)
  · obtain ⟨k, rfl⟩ := Nat.exists_eq_add_of_le (Nat.le_of_not_lt hja)
    rw [List.append_assoc, List.drop_length_add_append] at hp
    rw [List.length_append] at hj
    exact hb k (by omega) hp

/-- A text that does not contain the separator: it could begin at the end of the text only if it
    overlapped itself. -/
theorem free_of_not_infix (hsep : NoOverlap sep) {l : Bytes} (h : ¬ sep <:+: l) : Free sep l := by
  rw [free_iff]
  intro j hj hp
  have hdrop : (l ++ sep).drop j = l.drop j ++ sep := List.drop_append_of_le_length (by omega)
  rw [hdrop] at hp
  by_cases hlen : j + sep.length ≤ l.length
  · refine h (List.IsInfix.trans ?_ (List.drop_suffix j l).isInfix)
    exact (List.prefix_of_prefix_length_le hp (List.prefix_append _ _)
      (by simp only [List.length_drop]; omega)).isInfix
  · -- the rest of `l` is the beginning of the separator, and the separator follows it
    obtain ⟨t, ht⟩ := hp
    refine hsep.2 (l.length - j) (by omega) (by omega) t ?_
    have hk : (l.drop j).length = l.length - j := List.length_drop ..
    rw [ht, ← hk, List.drop_left]

theorem Free.not_infix {l : Bytes} (hsep : NoOverlap sep) (h : Free sep l) : ¬ sep <:+: l := by
  rintro ⟨a, b, rfl⟩
  have hpos := hsep.1
  refine free_iff.mp h a.length (by simp; omega) ?_
  rw [List.append_assoc, List.append_assoc, List.drop_left]
  exact List.prefix_append _ _

theorem Free.within (hsep : NoOverlap sep) {l m : Bytes} (h : Free sep l) (hm : m <:+: l) :
    Free sep m :=
  free_of_not_infix hsep fun hs => h.not_infix hsep (hs.trans hm)

end Lines
