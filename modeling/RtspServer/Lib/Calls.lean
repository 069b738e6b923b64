/-
  Objects that are used through calls. A call gets an argument, answers, and leaves the object
  changed; a call that must not be made in some state is `none` there. `answers` is a whole use
  of an object. A relation between two objects that each call keeps, with equal answers, is kept
  by every use (`answers_related`): neither object is told from the other.
-/
import Mathlib.Data.Option.Basic

namespace RtspServer

namespace Calls

variable {σ τ α β : Type}

/-- The answers to a list of calls and the object afterwards. -/
def answers (call : σ → α → Option (β × σ)) : σ → List α → Option (List β × σ)
  | s, [] => some ([], s)
  | s, a :: as =>
      match call s a with
      | none => none
      | some (b, s') => (answers call s' as).map fun r => (b :: r.1, r.2)

/-- The same answer, and related objects. -/
def Same (R : σ → τ → Prop) (x : β × σ) (y : β × τ) : Prop := x.1 = y.1 ∧ R x.2 y.2

theorem answers_cons {call : σ → α → Option (β × σ)} {s s' : σ} {a : α} {b : β} (as : List α)
    (h : call s a = some (b, s')) :
    answers call s (a :: as) = (answers call s' as).map fun r => (b :: r.1, r.2) := by
  rw [answers, h]

/-- A first call and, from there on, uses that are related whenever they begin related. -/
theorem answers_cons_related {call : σ → α → Option (β × σ)} {call' : τ → α → Option (β × τ)}
    {R : σ → τ → Prop} {as : List α}
    (hrest : ∀ s t, R s t → Option.Rel (Same R) (answers call s as) (answers call' t as)) {s : σ}
    {t : τ} {a : α} (hfirst : Option.Rel (Same R) (call s a) (call' t a)) :
    Option.Rel (Same R) (answers call s (a :: as)) (answers call' t (a :: as)) := by
  rw [answers, answers]
  generalize call s a = x, call' t a = y at hfirst ⊢
  cases hfirst with
  | none => exact .none
  | @some x y hxy =>
      obtain ⟨b, s'⟩ := x
      obtain ⟨b', t'⟩ := y
      obtain ⟨hb, hR⟩ := hxy
      obtain rfl : b = b' := hb
      have hsame := hrest s' t' hR
      dsimp only
      generalize answers call s' as = r, answers call' t' as = r' at hsame ⊢
      cases hsame with
      | none => exact .none
      | some h => exact .some ⟨congrArg (b :: ·) h.1, h.2⟩

/-- What each call keeps, a whole use keeps. -/
theorem answers_related {call : σ → α → Option (β × σ)} {call' : τ → α → Option (β × τ)}
    {R : σ → τ → Prop}
    (hcall : ∀ s t a, R s t → Option.Rel (Same R) (call s a) (call' t a)) {s : σ} {t : τ}
    (hR : R s t) (as : List α) :
    Option.Rel (Same R) (answers call s as) (answers call' t as) := by
  induction as generalizing s t with
  | nil => exact .some ⟨rfl, hR⟩
  | cons a as ih => exact answers_cons_related (fun _ _ hR => ih hR) (hcall s t a hR)

/-- Related uses have the same answers. -/
theorem answers_of_rel {R : σ → τ → Prop} {x : Option (β × σ)} {y : Option (β × τ)}
    (h : Option.Rel (Same R) x y) : x.map Prod.fst = y.map Prod.fst := by
  cases h with
  | none => rfl
  | some hxy => exact congrArg some hxy.1

/-- Where a use stops, a call of it was not defined. -/
theorem exists_of_answers_none {call : σ → α → Option (β × σ)} {s : σ} {as : List α}
    (h : answers call s as = none) : ∃ t, ∃ a ∈ as, call t a = none := by
  induction as generalizing s with
  | nil => cases h
  | cons a as ih =>
      cases hs : call s a with
      | none => exact ⟨s, a, List.mem_cons_self, hs⟩
      | some x =>
          obtain ⟨b, s'⟩ := x
          rw [answers_cons as hs, Option.map_eq_none_iff] at h
          obtain ⟨t, a', ha', ht⟩ := ih h
          exact ⟨t, a', List.mem_cons_of_mem a ha', ht⟩

end Calls

end RtspServer
