/-
  Cutting a list behind its marked elements: `groups` gives the groups, each of which ends with
  the only marked element it has, and the elements behind the last mark. Names nothing of the
  server.

  `groups_append`: a list that ends with a mark is cut on its own, whatever follows it.
-/
import Mathlib.Data.List.Basic

namespace Marked

variable {α : Type} (marked : α → Bool)

def groups : List α → List (List α) × List α
  | [] => ([], [])
  | a :: l =>
      let (gs, rest) := groups l
      if marked a then ([a] :: gs, rest)
      else
        match gs with
        | [] => ([], a :: rest)
        | g :: gs => ((a :: g) :: gs, rest)

/-- The last element and only it is marked. -/
def Closed (g : List α) : Prop :=
  ∃ init last, g = init ++ [last] ∧ (∀ a ∈ init, marked a = false) ∧ marked last = true

variable {marked}

theorem groups_marked {a : α} (h : marked a = true) (l : List α) :
    groups marked (a :: l) = ([a] :: (groups marked l).1, (groups marked l).2) := by
  rw [groups]
  exact if_pos h

theorem groups_unmarked {a : α} (h : marked a = false) {l : List α} {g : List α}
    {gs : List (List α)} {rest : List α} (hl : groups marked l = (g :: gs, rest)) :
    groups marked (a :: l) = ((a :: g) :: gs, rest) := by
  rw [groups, hl]
  dsimp only
  rw [h]
  rfl

/-- The first group of a list. -/
theorem groups_closed {g : List α} (h : Closed marked g) (l : List α) :
    groups marked (g ++ l) = (g :: (groups marked l).1, (groups marked l).2) := by
  obtain ⟨init, last, rfl, hinit, hlast⟩ := h
  induction init with
  | nil => exact groups_marked hlast l
  | cons a init ih =>
      obtain ⟨ha, hrest⟩ := List.forall_mem_cons.mp hinit
      exact groups_unmarked ha (ih hrest)

/-- Nothing is left over behind the last mark. -/
theorem groups_append {l : List α} (h : (groups marked l).2 = []) (l' : List α) :
    groups marked (l ++ l') =
      ((groups marked l).1 ++ (groups marked l').1, (groups marked l').2) := by
  induction l with
  | nil => rfl
  | cons a l ih =>
      by_cases ha : marked a = true
      · rw [groups_marked ha] at h ⊢
        rw [List.cons_append, groups_marked ha, ih h]
        rfl
      · have ha : marked a = false := Bool.of_not_eq_true ha
        rcases hl : groups marked l with ⟨gs, rest⟩
        rw [hl] at ih
        cases gs with
        | nil =>
            rw [groups, hl] at h
            dsimp only at h
            rw [ha] at h
            cases h
        | cons g gs =>
            rw [groups_unmarked ha hl] at h ⊢
            exact groups_unmarked ha (ih h)

end Marked
