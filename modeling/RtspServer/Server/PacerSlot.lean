/-
  Model of the pacer's slot accounting: `Reactor::pacerLoop`, which claims the slot
  `pacer_in_flight_` of each session of its snapshot and submits one task, and the workers of
  `ThreadPool`, which run the task: `pacerTick`, then `releasePacerTick`. Sessions are of any
  type, the pool has any number of workers, and the actions are the atomic operations in any
  order. `submit` cannot fail here: the pool is closed only after the pacer thread has ended.

  A `pacerTick` may end by throwing. The `packaged_task` keeps the exception, the worker goes
  on to the next task, and `releasePacerTick` is not called.

  `slotAccounted_iff` is exact: outside of the claim and submit pair, the flag of a session says
  whether a task of it is queued or running if and only if no tick of that session has thrown
  so far. There is never more than one such task (`live_le_one`); after a throw there is none
  and the slot stays taken for ever.
-/
import RtspServer.Lib.Lts
import Mathlib.Algebra.BigOperators.Fin
import Mathlib.Algebra.Order.BigOperators.Group.Finset
import Mathlib.Data.Fintype.BigOperators

namespace RtspServer.PacerSlot

variable {ι : Type} [DecidableEq ι] {n : Nat}

/-! ## The pacer and the pool -/

/-- Where a worker of the pool is. -/
inductive WorkerPc (ι : Type) where
  /-- in `tasks_.pop()` -/
  | idle
  /-- inside `pacerTick` -/
  | ticking (session : ι)
  /-- `pacerTick` has returned, `releasePacerTick` is next -/
  | ticked (session : ι)
  /-- the slot is released, the task is about to end -/
  | released (session : ι)
  deriving DecidableEq

structure PoolState (ι : Type) (n : Nat) where
  inFlight : ι → Bool
  /-- the rest of the pacer's snapshot -/
  active : List ι
  /-- the session whose slot is claimed and whose task is not submitted yet -/
  claimed : Option ι
  tasks : List ι
  workers : Fin n → WorkerPc ι

def init : PoolState ι n :=
  { inFlight := fun _ => false, active := [], claimed := none, tasks := [],
    workers := fun _ => .idle }

/-- The atomic steps. -/
inductive Act (ι : Type) (n : Nat) where
  /-- the pacer wakes up and takes a snapshot of the session list -/
  | snapshot (sessions : List ι)
  /-- `tryClaimPacerTick` of the next session of the snapshot -/
  | claim
  | submit
  /-- the worker pops a task and enters `pacerTick` -/
  | start (w : Fin n)
  | tickReturns (w : Fin n)
  | tickThrows (w : Fin n)
  /-- `releasePacerTick` -/
  | release (w : Fin n)
  /-- the task ends -/
  | finish (w : Fin n)
  deriving DecidableEq

def PoolState.setWorker (s : PoolState ι n) (w : Fin n) (pc : WorkerPc ι) : PoolState ι n :=
  { s with workers := Function.update s.workers w pc }

def step (s : PoolState ι n) : Act ι n → Option (PoolState ι n)
  | .snapshot sessions =>
      match s.active, s.claimed with
      | [], none => some { s with active := sessions }
      | _, _ => none
  | .claim =>
      match s.active, s.claimed with
      | i :: rest, none =>
          if s.inFlight i then some { s with active := rest }
          else some { s with
            inFlight := Function.update s.inFlight i true, active := rest, claimed := some i }
      | _, _ => none
  | .submit =>
      match s.claimed with
      | some i => some { s with tasks := s.tasks ++ [i], claimed := none }
      | none => none
  | .start w =>
      match s.workers w, s.tasks with
      | .idle, i :: rest => some ({ s with tasks := rest }.setWorker w (.ticking i))
      | _, _ => none
  | .tickReturns w =>
      match s.workers w with
      | .ticking i => some (s.setWorker w (.ticked i))
      | _ => none
  | .tickThrows w =>
      match s.workers w with
      | .ticking _ => some (s.setWorker w .idle)
      | _ => none
  | .release w =>
      match s.workers w with
      | .ticked i =>
          some ({ s with inFlight := Function.update s.inFlight i false }.setWorker w (.released i))
      | _ => none
  | .finish w =>
      match s.workers w with
      | .released _ => some (s.setWorker w .idle)
      | _ => none

/-! ## The tasks of a session -/

/-- 1 when the worker has started a task of the session and not released the slot. -/
def WorkerPc.holds (i : ι) : WorkerPc ι → Nat
  | .ticking j => if j = i then 1 else 0
  | .ticked j => if j = i then 1 else 0
  | _ => 0

/-- The tasks of the session that are queued, or started without having released or ended. -/
def live (s : PoolState ι n) (i : ι) : Nat :=
  s.tasks.count i + ∑ w, (s.workers w).holds i

/-- The flag says whether there is such a task, and there is at most one. -/
def SlotAccounted (s : PoolState ι n) (i : ι) : Prop :=
  (s.inFlight i = true ↔ live s i = 1) ∧ live s i ≤ 1

/-- The step is not a tick of the session that throws. -/
def NoThrow (i : ι) (s : PoolState ι n) (a : Act ι n) : Prop :=
  ∀ w, a = .tickThrows w → s.workers w ≠ .ticking i

instance (s : PoolState ι n) (i : ι) : Decidable (SlotAccounted s i) :=
  inferInstanceAs (Decidable (_ ∧ _))

instance (i : ι) (s : PoolState ι n) (a : Act ι n) : Decidable (NoThrow i s a) :=
  inferInstanceAs (Decidable (∀ _, _))

theorem live_setWorker (s : PoolState ι n) (w : Fin n) (pc : WorkerPc ι) (i : ι) :
    live (s.setWorker w pc) i + (s.workers w).holds i = live s i + pc.holds i := by
  have hsum : (∑ v, (Function.update s.workers w pc v).holds i) + (s.workers w).holds i =
      (∑ v, (s.workers v).holds i) + pc.holds i := by
    rw [← Finset.add_sum_erase _ _ (Finset.mem_univ w),
      ← Finset.add_sum_erase Finset.univ (fun v => (s.workers v).holds i) (Finset.mem_univ w)]
    have hrest : ∑ v ∈ Finset.univ.erase w, (Function.update s.workers w pc v).holds i =
        ∑ v ∈ Finset.univ.erase w, (s.workers v).holds i := by
      apply Finset.sum_congr rfl
      intro v hv
      rw [Function.update_of_ne (Finset.ne_of_mem_erase hv)]
    rw [hrest, Function.update_self]
    omega
  unfold live PoolState.setWorker
  dsimp only
  omega

/-- The slot of the session is held by its claim or by its task, or `lost` ticks have left it
    taken, or it is free. -/
def Ledger (i : ι) (lost : Nat) (s : PoolState ι n) : Prop :=
  live s i + (if s.claimed = some i then 1 else 0) + lost = if s.inFlight i then 1 else 0

theorem Ledger.le_one {i : ι} {lost : Nat} {s : PoolState ι n} (h : Ledger i lost s) :
    live s i + lost ≤ 1 := by
  have hflag : (if s.inFlight i then 1 else 0) ≤ 1 := by split <;> omega
  unfold Ledger at h
  omega

theorem holds_le_live (s : PoolState ι n) (w : Fin n) (i : ι) :
    (s.workers w).holds i ≤ live s i := by
  have := Finset.single_le_sum (f := fun v => (s.workers v).holds i)
    (fun v _ => Nat.zero_le _) (Finset.mem_univ w)
  exact Nat.le_add_left_of_le this

/-- Moving a worker changes the ledger by what the worker holds. -/
theorem ledger_setWorker {i : ι} {lost lost' : Nat} {s : PoolState ι n} {w : Fin n}
    {pc : WorkerPc ι} (hI : Ledger i lost s)
    (hw : pc.holds i + lost' = (s.workers w).holds i + lost) :
    Ledger i lost' (s.setWorker w pc) := by
  have hlive := live_setWorker s w pc i
  unfold Ledger at hI ⊢
  have hc : (s.setWorker w pc).claimed = s.claimed := rfl
  have hf : (s.setWorker w pc).inFlight = s.inFlight := rfl
  rw [hc, hf]
  omega

theorem ledger_claim {i j : ι} {lost : Nat} {s : PoolState ι n} {rest : List ι}
    (hI : Ledger i lost s) (hc : s.claimed = none) (hfree : s.inFlight j = false) :
    Ledger i lost { s with
      inFlight := Function.update s.inFlight j true, active := rest, claimed := some j } := by
  unfold Ledger at hI ⊢
  simp only [hc, reduceCtorEq, if_false] at hI
  by_cases hji : j = i
  · subst hji
    rw [hfree] at hI
    simp only [Function.update_self, if_true]
    change live s j + 1 + lost = 1
    simp only [Bool.false_eq_true, if_false] at hI
    omega
  · simp only [Function.update_of_ne (Ne.symm hji), Option.some.injEq, hji, if_false]
    exact hI

theorem ledger_start {i j : ι} {lost : Nat} {s : PoolState ι n} {w : Fin n} {rest : List ι}
    (hI : Ledger i lost s) (hw : s.workers w = .idle) (ht : s.tasks = j :: rest) :
    Ledger i lost ({ s with tasks := rest }.setWorker w (.ticking j)) := by
  have hlive := live_setWorker { s with tasks := rest } w (.ticking j) i
  have htasks : live s i = live { s with tasks := rest } i + if j = i then 1 else 0 := by
    unfold live
    simp only [ht, List.count_cons, beq_iff_eq]
    omega
  simp only [hw, WorkerPc.holds] at hlive
  unfold Ledger at hI ⊢
  change live ({ s with tasks := rest }.setWorker w (.ticking j)) i +
    (if s.claimed = some i then 1 else 0) + lost = if s.inFlight i then 1 else 0
  omega

theorem ledger_release {i j : ι} {lost : Nat} {s : PoolState ι n} {w : Fin n}
    (hI : Ledger i lost s) (hw : s.workers w = .ticked j) :
    Ledger i lost
      ({ s with inFlight := Function.update s.inFlight j false }.setWorker w (.released j)) := by
  have hlive := live_setWorker s w (.released j) i
  have hle := holds_le_live s w i
  simp only [hw, WorkerPc.holds] at hlive hle
  unfold Ledger at hI ⊢
  change live (s.setWorker w (.released j)) i + (if s.claimed = some i then 1 else 0) + lost =
    if Function.update s.inFlight j false i then 1 else 0
  by_cases hji : j = i
  · -- the task held the slot, so the flag was set
    subst hji
    simp only [if_true, Function.update_self, Bool.false_eq_true, if_false] at hlive hle ⊢
    cases hf : s.inFlight j with
    | false => simp only [hf, Bool.false_eq_true, if_false] at hI; omega
    | true => simp only [hf, if_true] at hI; omega
  · rw [Function.update_of_ne (Ne.symm hji)]
    simp only [hji, if_false] at hlive
    omega

/-- A step keeps the ledger of a session, up to a tick of it that throws. -/
theorem ledger_step {i : ι} {lost : Nat} {s s' : PoolState ι n} {a : Act ι n}
    (hI : Ledger i lost s) (hC : NoThrow i s a) (h : step s a = some s') : Ledger i lost s' := by
  unfold step at h
  split at h
  all_goals (repeat' split at h)
  all_goals cases h
  · exact hI
  · exact hI
  · next hc hfree => exact ledger_claim hI hc (Bool.of_not_eq_true hfree)
  · next j hc =>
      unfold Ledger live at hI ⊢
      simp only [hc, Option.some.injEq, List.count_append, List.count_singleton, beq_iff_eq,
        reduceCtorEq, if_false] at hI ⊢
      omega
  · next hw ht => exact ledger_start hI hw ht
  · next hw => exact ledger_setWorker hI (by rw [hw]; rfl)
  · next w _ j hw =>
      have hji : j ≠ i := fun hji => hC w rfl (by rw [hw, hji])
      exact ledger_setWorker hI (by rw [hw]; simp [WorkerPc.holds, hji])
  · next hw => exact ledger_release hI hw
  · next hw => exact ledger_setWorker hI (by rw [hw]; rfl)

/-- The tick that throws leaves the slot taken. -/
theorem ledger_throw {i : ι} {lost : Nat} {s s' : PoolState ι n} {a : Act ι n}
    (hI : Ledger i lost s) (hC : ¬ NoThrow i s a) (h : step s a = some s') :
    Ledger i (lost + 1) s' := by
  simp only [NoThrow, ne_eq, not_forall, not_not, exists_prop] at hC
  obtain ⟨w, rfl, hw⟩ := hC
  simp only [step, hw, Option.some.injEq] at h
  subst h
  exact ledger_setWorker hI (by rw [hw]; simp [WorkerPc.holds]; omega)

theorem ledger_init (i : ι) : Ledger i 0 (init : PoolState ι n) := by
  simp [Ledger, live, init, WorkerPc.holds]

/-- Once a slot is lost no tick of the session runs, so no further step can lose it again. -/
theorem noThrow_of_lost {i : ι} {s : PoolState ι n} (hI : Ledger i 1 s) (a : Act ι n) :
    NoThrow i s a := by
  intro w _ hw
  have hle := holds_le_live s w i
  simp only [hw, WorkerPc.holds, if_true] at hle
  have := hI.le_one
  omega

theorem ledger_of_run {i : ι} {as : List (Act ι n)} {s : PoolState ι n}
    (h : Lts.run step init as = some s) :
    (Lts.Along step (NoThrow i) init as → Ledger i 0 s) ∧
    (¬ Lts.Along step (NoThrow i) init as → Ledger i 1 s) := by
  constructor
  · intro hC
    exact Lts.run_invariant (fun _ _ _ hI hC h => ledger_step hI hC h) (ledger_init i) hC h
  · intro hC
    obtain ⟨before, a, after, u, v, -, hbefore, hu, ha, hv, hrest⟩ := Lts.first_break hC h
    have hIu : Ledger i 0 u :=
      Lts.run_invariant (fun _ _ _ hI hC h => ledger_step hI hC h) (ledger_init i) hbefore hu
    have hIv : Ledger i 1 v := ledger_throw hIu ha hv
    exact Lts.run_stable (fun _ a _ hI h => ledger_step hI (noThrow_of_lost hI a) h) hIv hrest

/-- At most one task of a session is queued or running, in every run. -/
theorem live_le_one {i : ι} {as : List (Act ι n)} {s : PoolState ι n}
    (h : Lts.run step init as = some s) : live s i ≤ 1 := by
  by_cases hC : Lts.Along step (NoThrow i) init as
  · exact ((ledger_of_run h).1 hC).le_one
  · exact Nat.le_of_add_right_le ((ledger_of_run h).2 hC).le_one

/-- **The slot is accounted for exactly as long as no tick has thrown.** In every run of the
    pacer and the workers and every session that is not between its claim and its submit, the
    flag is set if and only if exactly one task of the session is queued or running, and there
    is never more than one; this holds if and only if no tick of that session has thrown. -/
theorem slotAccounted_iff (i : ι) (as : List (Act ι n)) (s : PoolState ι n)
    (h : Lts.run step init as = some s) (hc : s.claimed ≠ some i) :
    SlotAccounted s i ↔ Lts.Along step (NoThrow i) init as := by
  obtain ⟨hkept, hlost⟩ := ledger_of_run (i := i) h
  constructor
  · intro hacc
    by_contra hC
    have hI := hlost hC
    unfold Ledger at hI
    simp only [hc, if_false] at hI
    split at hI
    · next hf =>
        have := hacc.1.mp hf
        omega
    · omega
  · intro hC
    have hI := hkept hC
    unfold Ledger at hI
    simp only [hc, if_false, Nat.add_zero] at hI
    refine ⟨?_, live_le_one h⟩
    rw [hI]
    cases s.inFlight i <;> simp

/-- The pacer claims session 7, submits its task, and a worker runs it to its end. -/
def releasedRun : List (Act Nat 4) :=
  [.snapshot [7], .claim, .submit, .start 2, .tickReturns 2, .release 2, .finish 2]

theorem slotAccounted_iff_released :
    ∃ s, Lts.run step init releasedRun = some s ∧ s.claimed ≠ some 7 ∧ SlotAccounted s 7 := by
  have hC : Lts.Along step (NoThrow 7) init releasedRun := by decide +kernel
  have hend : (Lts.run step init releasedRun).map (·.claimed) = some none := by decide +kernel
  obtain ⟨s, hs, hclaimed⟩ := Option.map_eq_some_iff.mp hend
  have hc : s.claimed ≠ some 7 := by
    rw [hclaimed]
    exact (Option.some_ne_none 7).symm
  exact ⟨s, hs, hc, (slotAccounted_iff 7 releasedRun s hs hc).mpr hC⟩

/-- The tick throws instead. -/
def thrownRun : List (Act Nat 4) := [.snapshot [7], .claim, .submit, .start 2, .tickThrows 2]

/-- No task of the session is left and its slot cannot be claimed. -/
theorem thrownRun_leaks : ∃ s, Lts.run step init thrownRun = some s ∧ s.claimed ≠ some 7 ∧
    ¬ SlotAccounted s 7 ∧ live s 7 = 0 ∧ s.inFlight 7 = true :=
  ⟨_, rfl, by decide +kernel⟩

end RtspServer.PacerSlot
