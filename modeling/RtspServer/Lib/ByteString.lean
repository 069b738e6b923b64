/-
  Byte strings with the search functions of a C++ string class. Names nothing of the server.

  A string is the list of its bytes. `find s pat pos` is the first index at or after `pos`
  where `pat` occurs, `none` where the C++ function returns `npos`. `substr` follows the library
  function of the same name.

  Proved:
  * `indexOf_some`, `indexOf_eq_some`: `indexOf` returns the first occurrence and nothing else.
  * `indexOf_append`: an occurrence found stays the first one when bytes are appended. This
    is what makes a search-based framer independent of how its input arrives.
  * `indexOf_tagged`: searching a tag that starts with a separator `sep` can be done piece by
    piece, when the separator cannot overlap itself.
-/
import Mathlib.Algebra.Order.Field.Rat
import Mathlib.Data.List.Infix
import Mathlib.Data.List.TakeDrop
import Mathlib.Tactic.Common

namespace ByteString

abbrev Bytes := List UInt8

/-- The bytes of a text, in UTF-8. -/
def ascii (s : String) : Bytes := s.toByteArray.data.toList

/-! ## Searching -/

/-- Index of the first occurrence of `pat` in `s`. -/
def indexOf (pat : Bytes) : Bytes → Option Nat
  | [] => if pat.isPrefixOf [] then some 0 else none
  | c :: s => if pat.isPrefixOf (c :: s) then some 0 else (indexOf pat s).map (· + 1)

/-- `s.find(pat, pos)`, with `none` for `npos`. -/
def find (s pat : Bytes) (pos : Nat) : Option Nat :=
  (indexOf pat (s.drop pos)).map (pos + ·)

/-- `s.substr(pos, len)` for `pos ≤ s.size()`; a length past the end is clamped. -/
def substr (s : Bytes) (pos len : Nat) : Bytes := (s.drop pos).take len

theorem indexOf_cons (pat : Bytes) (c : UInt8) (s : Bytes) :
    indexOf pat (c :: s) =
      if pat <+: c :: s then some 0 else (indexOf pat s).map (· + 1) := by
  simp only [indexOf, List.isPrefixOf_iff_prefix]

theorem indexOf_of_prefix {pat s : Bytes} (h : pat <+: s) : indexOf pat s = some 0 := by
  cases s with
  | nil => simp [indexOf, List.prefix_nil.mp h]
  | cons c s => rw [indexOf_cons, if_pos h]

/-- `indexOf` returns an occurrence, and nothing before it is one. -/
theorem indexOf_some {pat : Bytes} :
    ∀ {s : Bytes} {i : Nat}, indexOf pat s = some i →
      pat <+: s.drop i ∧ i + pat.length ≤ s.length ∧ ∀ j, j < i → ¬ pat <+: s.drop j
  | [], i, h => by
      simp only [indexOf, List.isPrefixOf_iff_prefix] at h
      split at h
      · next hp =>
          cases h
          exact ⟨by simpa using hp, by simpa using hp.length_le, fun j hj => absurd hj (by omega)⟩
      · cases h
  | c :: s, i, h => by
      rw [indexOf_cons] at h
      split at h
      · next hp =>
          cases h
          exact ⟨by simpa using hp, by simpa using hp.length_le, fun j hj => absurd hj (by omega)⟩
      · next hp =>
          obtain ⟨k, hk, rfl⟩ := Option.map_eq_some_iff.mp h
          obtain ⟨h1, h2, h3⟩ := indexOf_some hk
          refine ⟨by simpa using h1, by simp only [List.length_cons]; omega, ?_⟩
          intro j hj
          cases j with
          | zero => simpa using hp
          | succ j => simpa using h3 j (by omega)

/-- The first occurrence is what `indexOf` returns. -/
theorem indexOf_eq_some {pat : Bytes} :
    ∀ {s : Bytes} {i : Nat}, pat <+: s.drop i → i ≤ s.length →
      (∀ j, j < i → ¬ pat <+: s.drop j) → indexOf pat s = some i
  | s, 0, h, _, _ => indexOf_of_prefix (by simpa using h)
  | [], _ + 1, _, hi, _ => by simp at hi
  | c :: s, i + 1, h, hi, hmin => by
      have h0 : ¬ pat <+: c :: s := by simpa using hmin 0 (by omega)
      have hs : indexOf pat s = some i :=
        indexOf_eq_some (by simpa using h) (by simpa using hi)
          (fun j hj => by simpa using hmin (j + 1) (by omega))
      rw [indexOf_cons, if_neg h0, hs]
      rfl

/-- A search that fails finds no occurrence at any position. -/
theorem indexOf_none {pat : Bytes} :
    ∀ {s : Bytes}, indexOf pat s = none → ∀ j, j ≤ s.length → ¬ pat <+: s.drop j
  | [], h, j, hj => by
      have hj0 : j = 0 := by simpa using hj
      subst hj0
      simp only [indexOf, List.isPrefixOf_iff_prefix] at h
      split at h
      · cases h
      · next hp => simpa using hp
  | c :: s, h, j, hj => by
      rw [indexOf_cons] at h
      split at h
      · cases h
      · next hp =>
          cases j with
          | zero => simpa using hp
          | succ j =>
              simpa using indexOf_none (Option.map_eq_none_iff.mp h) j (by simpa using hj)

/-- Appending bytes does not move an occurrence already found. -/
theorem indexOf_append {pat s : Bytes} {i : Nat} (h : indexOf pat s = some i) (t : Bytes) :
    indexOf pat (s ++ t) = some i := by
  obtain ⟨h1, h2, h3⟩ := indexOf_some h
  refine indexOf_eq_some ?_ (by simp only [List.length_append]; omega) ?_
  · rw [List.drop_append_of_le_length (by omega)]
    exact h1.trans (List.prefix_append _ _)
  · intro j hj hp
    -- an occurrence before `i` would already lie inside `s`
    rw [List.drop_append_of_le_length (by omega)] at hp
    refine h3 j hj (List.prefix_of_prefix_length_le hp (List.prefix_append _ _) ?_)
    simp only [List.length_drop]; omega

/-- No occurrence anywhere: the search fails. -/
theorem indexOf_eq_none {pat s : Bytes} (h : ∀ j, j ≤ s.length → ¬ pat <+: s.drop j) :
    indexOf pat s = none := by
  cases hi : indexOf pat s with
  | none => rfl
  | some i =>
      obtain ⟨h1, h2, _⟩ := indexOf_some hi
      exact absurd h1 (h i (by omega))

theorem indexOf_isSome_iff {pat s : Bytes} : (indexOf pat s).isSome = true ↔ pat <:+: s := by
  constructor
  · intro h
    obtain ⟨i, hi⟩ := Option.isSome_iff_exists.mp h
    exact (indexOf_some hi).1.isInfix.trans (List.drop_suffix i s).isInfix
  · rintro ⟨pre, post, rfl⟩
    cases hi : indexOf pat (pre ++ pat ++ post) with
    | some i => rfl
    | none =>
        refine absurd ?_ (indexOf_none hi pre.length (by simp))
        rw [List.append_assoc, List.drop_left]
        exact List.prefix_append pat post

/-- The first occurrence of a single byte. -/
theorem indexOf_byte {c : UInt8} {s : Bytes} (h : c ∉ s) (t : Bytes) :
    indexOf [c] (s ++ c :: t) = some s.length := by
  induction s with
  | nil => exact indexOf_of_prefix (List.prefix_append [c] t)
  | cons d s ih =>
      rw [List.mem_cons, not_or] at h
      rw [List.cons_append, indexOf_cons, if_neg, ih h.2]
      · rfl
      · exact fun hp => h.1 (List.cons_prefix_cons.mp hp).1

/-- Searching `sep ++ key` past the first separator. `hsep` says that `sep` does not overlap
    itself, so the only candidate inside the separator is the separator itself; after it the
    search goes on in what follows. -/
theorem indexOf_tagged (key : Bytes) {sep l r : Bytes}
    (hsep : ∀ j, 0 < j → j < sep.length → ∀ t : Bytes, ¬ sep <+: (sep ++ t).drop j)
    (hl : indexOf sep (l ++ (sep ++ r)) = some l.length) :
    indexOf (sep ++ key) (l ++ (sep ++ r)) =
      if key <+: r then some l.length
      else (indexOf (sep ++ key) r).map (l.length + sep.length + ·) := by
  obtain ⟨_, _, hmin⟩ := indexOf_some hl
  have hbefore : ∀ j, j < l.length → ¬ sep ++ key <+: (l ++ (sep ++ r)).drop j :=
    fun j hj hp => hmin j hj ((List.prefix_append sep key).trans hp)
  have hdropl : ∀ k, (l ++ (sep ++ r)).drop (l.length + k) = (sep ++ r).drop k := by
    intro k; rw [List.drop_append]; simp
  have hdropr : ∀ k, (l ++ (sep ++ r)).drop (l.length + sep.length + k) = r.drop k := by
    intro k; rw [Nat.add_assoc, hdropl, List.drop_append]; simp
  split
  · next hkey =>
      refine indexOf_eq_some ?_ (by simp) hbefore
      have := hdropl 0
      rw [Nat.add_zero] at this
      rw [this]
      simpa using hkey
  · next hkey =>
      -- inside the first separator there is no occurrence
      have hinside : ∀ k, k < sep.length → ¬ sep ++ key <+: (sep ++ r).drop k := by
        intro k hk hp
        cases k with
        | zero => exact hkey (by simpa using hp)
        | succ k => exact hsep (k + 1) (by omega) hk r ((List.prefix_append sep key).trans hp)
      have hsplit : ∀ j, l.length ≤ j → j < l.length + sep.length →
          ¬ sep ++ key <+: (l ++ (sep ++ r)).drop j := by
        intro j h1 h2
        obtain ⟨k, rfl⟩ := Nat.exists_eq_add_of_le h1
        rw [hdropl]
        exact hinside k (by omega)
      cases hr : indexOf (sep ++ key) r with
      | some k =>
          obtain ⟨hk1, hk2, hk3⟩ := indexOf_some hr
          rw [Option.map_some]
          refine indexOf_eq_some (by rw [hdropr]; exact hk1) ?_ ?_
          · simp only [List.length_append] at hk2 ⊢; omega
          · intro j hj
            rcases Nat.lt_or_ge j l.length with h1 | h1
            · exact hbefore j h1
            rcases Nat.lt_or_ge j (l.length + sep.length) with h2 | h2
            · exact hsplit j h1 h2
            obtain ⟨m, rfl⟩ := Nat.exists_eq_add_of_le h2
            rw [hdropr]
            exact hk3 m (by omega)
      | none =>
          refine indexOf_eq_none fun j hj => ?_
          rcases Nat.lt_or_ge j l.length with h1 | h1
          · exact hbefore j h1
          rcases Nat.lt_or_ge j (l.length + sep.length) with h2 | h2
          · exact hsplit j h1 h2
          obtain ⟨m, rfl⟩ := Nat.exists_eq_add_of_le h2
          rw [hdropr]
          exact indexOf_none hr m (by simp only [List.length_append] at hj; omega)

theorem find_zero (s pat : Bytes) : find s pat 0 = indexOf pat s := by
  simp [find]

theorem find_some {s pat : Bytes} {pos i : Nat} (h : find s pat pos = some i) :
    pos ≤ i ∧ indexOf pat (s.drop pos) = some (i - pos) := by
  obtain ⟨k, hk, rfl⟩ := Option.map_eq_some_iff.mp h
  exact ⟨by omega, by rw [hk]; congr 1; omega⟩

/-- A search succeeds at an occurrence at the latest. -/
theorem find_of_occurs {s pre pat post : Bytes} {pos : Nat} (h : s = pre ++ pat ++ post)
    (hpos : pos ≤ pre.length) : ∃ p, pos ≤ p ∧ p ≤ pre.length ∧ find s pat pos = some p := by
  subst h
  have hocc : pat <+: ((pre ++ pat ++ post).drop pos).drop (pre.length - pos) := by
    rw [List.drop_drop, Nat.add_sub_cancel' hpos, List.append_assoc, List.drop_left]
    exact List.prefix_append pat post
  cases hi : indexOf pat ((pre ++ pat ++ post).drop pos) with
  | none =>
      refine absurd hocc (indexOf_none hi _ ?_)
      simp only [List.length_drop, List.length_append]
      omega
  | some i =>
      have hle : i ≤ pre.length - pos :=
        Nat.le_of_not_lt fun hlt => (indexOf_some hi).2.2 _ hlt hocc
      exact ⟨pos + i, by omega, by omega, by rw [find, hi]; rfl⟩

/-- The text from `pos` on, cut where the search ended. -/
theorem drop_eq_of_find {s pat : Bytes} {pos i : Nat} (h : find s pat pos = some i) :
    s.drop pos = substr s pos (i - pos) ++ s.drop i ∧ pat <+: s.drop i := by
  obtain ⟨hle, hi⟩ := find_some h
  have hdrop : (s.drop pos).drop (i - pos) = s.drop i := by
    rw [List.drop_drop, Nat.add_sub_cancel' hle]
  refine ⟨?_, ?_⟩
  · rw [substr, ← hdrop, List.take_append_drop]
  · rw [← hdrop]
    exact (indexOf_some hi).1

end ByteString
