/-
  Finitely many threads, each at one place of its program: how many of them are at the places
  that a weight counts, and how one thread's step changes that number. Names nothing of the
  server.
-/
import Mathlib.Algebra.BigOperators.Group.Finset.Piecewise
import Mathlib.Algebra.Order.BigOperators.Group.Finset
import Mathlib.Data.Fintype.BigOperators

namespace Threads

variable {ι P : Type} [Fintype ι] [DecidableEq ι]

/-- The weight of all threads. -/
def total (w : P → Nat) (pc : ι → P) : Nat := ∑ i, w (pc i)

omit [DecidableEq ι] in
theorem total_eq_zero {w : P → Nat} {pc : ι → P} (h : ∀ i, w (pc i) = 0) : total w pc = 0 :=
  Finset.sum_eq_zero fun i _ => h i

omit [DecidableEq ι] in
/-- A positive weight is somebody's. -/
theorem exists_of_total_pos {w : P → Nat} {pc : ι → P} (h : 0 < total w pc) :
    ∃ i, 0 < w (pc i) := by
  by_contra hno
  have hzero : total w pc = 0 := total_eq_zero fun i => by
    by_contra hi
    exact hno ⟨i, Nat.pos_of_ne_zero hi⟩
  omega

/-- One thread moves. -/
theorem total_update (w : P → Nat) (pc : ι → P) (i : ι) (p : P) :
    total w (Function.update pc i p) + w (pc i) = total w pc + w p := by
  have hcomp : (fun j => w (Function.update pc i p j)) =
      Function.update (fun j => w (pc j)) i (w p) := by
    funext j
    exact Function.apply_update (fun _ => w) pc i p j
  unfold total
  rw [hcomp, Finset.sum_update_of_mem (Finset.mem_univ i),
    ← Finset.add_sum_erase Finset.univ (fun j => w (pc j)) (Finset.mem_univ i),
    Finset.sdiff_singleton_eq_erase]
  omega

/-- One thread moves, and what the others do has no weight. -/
theorem total_of_others {w : P → Nat} {pc pc' : ι → P} {i : ι}
    (h : ∀ j, j ≠ i → w (pc' j) = w (pc j)) :
    total w pc' + w (pc i) = total w pc + w (pc' i) := by
  have hsame : total w (Function.update pc i (pc' i)) = total w pc' := by
    refine Finset.sum_congr rfl fun j _ => ?_
    by_cases hji : j = i
    · rw [hji, Function.update_self]
    · rw [Function.update_of_ne hji, h j hji]
  rw [← hsame]
  exact total_update w pc i (pc' i)

end Threads
