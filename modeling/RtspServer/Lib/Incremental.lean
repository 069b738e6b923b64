/-
  Incremental decoders: units are cut off the front of a buffer as long as one is complete.
  Names nothing of the server.

  `next b` is the unit at the start of `b` and the number of elements it takes, or `none`
  when `b` does not hold a whole unit yet. `Drains next b us r`: cutting units off `b` until
  `next` answers `none` ends, with the units `us` and the rest `r`. `drain` is the same with
  fuel; it runs, and it answers `none` when the fuel is not enough.

  A decoder is `Stable` when more input does not change a unit that is already complete.
  * `drains_split`, `drains_append`: a stable decoder may be stopped and started again at any
    point.
  * `drains_chunks`: so the units do not depend on how the input is cut.
  * `exists_drain`: with units of positive size the decoding ends, and the fuel that `drain`
    needs is at most one more than the length of the buffer.
-/
import Mathlib.Data.List.TakeDrop
import Mathlib.Logic.Relation
import Mathlib.Tactic.Common

namespace Incremental

variable {α β : Type}

/-- Decoding `b` ends with the units `us` and the rest `r`. -/
inductive Drains (next : List α → Option (β × Nat)) : List α → List β → List α → Prop
  | stop {b : List α} (h : next b = none) : Drains next b [] b
  | unit {b : List α} {u : β} {n : Nat} {us : List β} {r : List α} (h : next b = some (u, n))
      (ht : Drains next (b.drop n) us r) : Drains next b (u :: us) r

/-- One unit is cut off. -/
def Cuts (next : List α → Option (β × Nat)) (b b' : List α) : Prop :=
  ∃ u n, next b = some (u, n) ∧ b' = b.drop n

/-- The buffers that decoding `b` comes through, `b` included. -/
def Reaches (next : List α → Option (β × Nat)) : List α → List α → Prop :=
  Relation.ReflTransGen (Cuts next)

/-- More input does not change a unit that is already complete. -/
def Stable (next : List α → Option (β × Nat)) : Prop :=
  ∀ b u n, next b = some (u, n) → n ≤ b.length ∧ ∀ t, next (b ++ t) = some (u, n)

/-- Decoding with fuel, one for each unit and one for the last question. -/
def drain (next : List α → Option (β × Nat)) : Nat → List α → Option (List β × List α)
  | 0, _ => none
  | fuel + 1, b =>
      match next b with
      | none => some ([], b)
      | some (u, n) => (drain next fuel (b.drop n)).map fun p => (u :: p.1, p.2)

variable {next : List α → Option (β × Nat)}

theorem drains_of_drain {fuel : Nat} {b : List α} {us : List β} {r : List α}
    (h : drain next fuel b = some (us, r)) : Drains next b us r := by
  induction fuel generalizing b us with
  | zero => cases h
  | succ fuel ih =>
      rw [drain] at h
      split at h
      · next hn => cases h; exact .stop hn
      · next u n hn =>
          obtain ⟨p, hp, hpe⟩ := Option.map_eq_some_iff.mp h
          cases hpe
          exact .unit hn (ih hp)

/-- The result does not depend on how the decoding is run: it is unique. -/
theorem Drains.unique {b : List α} {us us' : List β} {r r' : List α}
    (h : Drains next b us r) (h' : Drains next b us' r') : us = us' ∧ r = r' := by
  induction h generalizing us' with
  | stop hn =>
      cases h' with
      | stop _ => exact ⟨rfl, rfl⟩
      | unit hn' _ => rw [hn] at hn'; cases hn'
  | unit hn _ ih =>
      cases h' with
      | stop hn' => rw [hn] at hn'; cases hn'
      | unit hn' ht' =>
          rw [hn] at hn'
          cases hn'
          obtain ⟨rfl, rfl⟩ := ih ht'
          exact ⟨rfl, rfl⟩

/-- No unit is complete in the rest. -/
theorem Drains.stopped {b r : List α} {us : List β} (h : Drains next b us r) : next r = none := by
  induction h with
  | stop hn => exact hn
  | unit _ _ ih => exact ih

/-- If the longer buffer can be decoded, so can the shorter one, and the rest of it is decoded
    when the missing input comes. -/
theorem drains_split (hs : Stable next) {b t r' : List α} {us' : List β}
    (h : Drains next (b ++ t) us' r') :
    ∃ us r vs, Drains next b us r ∧ Drains next (r ++ t) vs r' ∧ us' = us ++ vs := by
  generalize hc : b ++ t = c at h
  induction h generalizing b with
  | stop hn =>
      subst hc
      have hb : next b = none := by
        cases hbn : next b with
        | none => rfl
        | some p =>
            obtain ⟨_, happ⟩ := hs _ _ _ hbn
            rw [happ t] at hn
            cases hn
      exact ⟨[], b, [], .stop hb, .stop hn, rfl⟩
  | @unit c u n us r hn ht ih =>
      subst hc
      cases hbn : next b with
      | none => exact ⟨[], b, u :: us, .stop hbn, .unit hn ht, rfl⟩
      | some p =>
          obtain ⟨hle, happ⟩ := hs _ _ _ hbn
          obtain rfl : p = (u, n) := Option.some.inj ((happ t).symm.trans hn)
          obtain ⟨vs, s, ws, h1, h2, h3⟩ := ih (List.drop_append_of_le_length hle).symm
          exact ⟨u :: vs, s, ws, .unit hbn h1, h2, by rw [h3]; rfl⟩

/-- More input is decoded from where the decoder stopped. -/
theorem drains_append (hs : Stable next) {b r t r' : List α} {us vs : List β}
    (h : Drains next b us r) (h' : Drains next (r ++ t) vs r') :
    Drains next (b ++ t) (us ++ vs) r' := by
  induction h with
  | stop => exact h'
  | unit hn _ ih =>
      obtain ⟨hle, happ⟩ := hs _ _ _ hn
      refine .unit (happ t) ?_
      rw [List.drop_append_of_le_length hle]
      exact ih h'

/-- Decoding chunk by chunk: each chunk is appended to the rest left by the one before. -/
inductive DrainsChunks (next : List α → Option (β × Nat)) :
    List α → List (List α) → List β → List α → Prop
  | nil {b : List α} : DrainsChunks next b [] [] b
  | cons {b c r r' : List α} {cs : List (List α)} {us us' : List β}
      (h : Drains next (b ++ c) us r) (ht : DrainsChunks next r cs us' r') :
      DrainsChunks next b (c :: cs) (us ++ us') r'

/-- **Decoding does not depend on the chunks.** Whatever way the input is cut, the units and
    the last rest are those of the whole input, and the decoding of every chunk ends. `b` is a
    buffer that holds no complete unit, as it is left by an earlier decoding. -/
theorem drains_chunks (hs : Stable next) :
    ∀ (cs : List (List α)) {b r : List α} {us : List β}, next b = none →
      Drains next (b ++ cs.flatten) us r → DrainsChunks next b cs us r
  | [], b, r, us, hb, h => by
      rw [List.flatten_nil, List.append_nil] at h
      obtain ⟨rfl, rfl⟩ := h.unique (.stop hb)
      exact .nil
  | c :: cs, b, r, us, hb, h => by
      rw [List.flatten_cons, ← List.append_assoc] at h
      obtain ⟨us1, r1, us2, h1, h2, rfl⟩ := drains_split hs h
      exact .cons h1 (drains_chunks hs cs h1.stopped h2)

/-- The first step of the way: nothing, or one unit is cut off. -/
theorem Reaches.head_cases {b c : List α} (h : Reaches next b c) :
    c = b ∨ ∃ u n, next b = some (u, n) ∧ Reaches next (b.drop n) c := by
  rcases Relation.ReflTransGen.cases_head h with rfl | ⟨d, ⟨u, n, hn, rfl⟩, hd⟩
  · exact .inl rfl
  · exact .inr ⟨u, n, hn, hd⟩

/-! ## Termination -/

/-- Decoding ends when every unit on the way takes at least one element. The induction is on
    the length of the buffer. -/
theorem exists_drain (b : List α)
    (hpos : ∀ b', Reaches next b b' → ∀ u n, next b' = some (u, n) → 0 < n ∧ n ≤ b'.length) :
    ∃ us r, drain next (b.length + 1) b = some (us, r) := by
  have key : ∀ fuel (b : List α), b.length < fuel →
      (∀ b', Reaches next b b' → ∀ u n, next b' = some (u, n) → 0 < n ∧ n ≤ b'.length) →
      ∃ us r, drain next fuel b = some (us, r) := by
    intro fuel
    induction fuel with
    | zero => intro b hlt; omega
    | succ fuel ih =>
        intro b hlt hpos
        rw [drain]
        cases hn : next b with
        | none => exact ⟨[], b, rfl⟩
        | some p =>
            obtain ⟨u, n⟩ := p
            obtain ⟨hp, hle⟩ := hpos b .refl u n hn
            obtain ⟨us, r, hd⟩ := ih (b.drop n) (by simp only [List.length_drop]; omega)
              (fun b' hb' => hpos b' (.head ⟨u, n, hn, rfl⟩ hb'))
            exact ⟨u :: us, r, by simp only [hd, Option.map_some]⟩
  exact key _ b (by omega) hpos

end Incremental
