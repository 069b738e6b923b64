/-
  What the steps inside `ThreadPool` change: a thread goes from one part of its program to the
  next (`Goes`), no task is numbered and none is finished, and a submit throws only when the queue
  says that it is closed. Nothing says so before a `shutdown` has closed it (`Told`).

  For a program that stops all calls of `submit` before it calls `shutdown`, this is why no submit
  throws.
-/
import RtspServer.Utils.ThreadPool

namespace RtspServer.ThreadPool

open Threads BlockingQueue

variable {N : Nat} {κ : Type}

/-! ## Who knows that the queue is closed -/

/-- The queue answers, or throws, because it is closed. -/
def tells : Pc Nat → Bool
  | .leaving (.bool true) | .returned (.bool true) | .leaving .threw | .returned .threw => true
  | _ => false

/-- `tasks_.close()` has returned. -/
def pastClose : Place → Bool
  | (.joining _, _) | (.shutDown, _) | (.closing, .returned _) => true
  | _ => false

/-- What a thread knows about the queue is so. -/
def Told (s : PoolState N κ) : Prop :=
  ∀ i, tells (s.tasks.pc i) = true ∨ pastClose (places s i) = true → s.tasks.closed = true

theorem tells_notified (p : Pc Nat) : tells (notified p) = tells p := by
  cases p <;> rfl

theorem pastClose_notified (d : Doing) (p : Pc Nat) :
    pastClose (d, notified p) = pastClose (d, p) := by
  cases d <;> cases p <;> rfl

theorem tells_returned (ret : Ret Nat) : tells (.returned ret) = tells (.leaving ret) := by
  cases ret with
  | bool b => cases b <;> rfl
  | void | item | threw => rfl

/-- Only a closed queue tells so. -/
theorem tells_attempt {capacity : Nat} {queue : List Nat} {closed timeout : Bool} {op : Op Nat}
    (h : tells (attempt capacity queue closed timeout op).pc = true) : closed = true := by
  cases closed with
  | true => rfl
  | false =>
      cases op with
      | push | pushFor | tryPush =>
          simp only [attempt, Bool.false_eq_true, if_false] at h
          repeat' split at h
          all_goals cases h
      | pop | popFor | tryPop =>
          simp only [attempt, dequeue] at h
          repeat' split at h
          all_goals cases h
      | close | isClosed => cases h

theorem attempt_closed {capacity : Nat} {queue : List Nat} {closed timeout : Bool} {op : Op Nat}
    (hop : op ≠ .close) : (attempt capacity queue closed timeout op).closed = closed := by
  cases op with
  | push | pushFor | tryPush =>
      simp only [attempt, pushBack]
      repeat' split
      all_goals rfl
  | pop | popFor | tryPop =>
      simp only [attempt, dequeue]
      repeat' split
      all_goals rfl
  | close => exact absurd rfl hop
  | isClosed => rfl

theorem told_init : Told (init : PoolState N κ) := by
  intro i h
  cases i with
  | inl w => rcases h with h | h <;> cases h
  | inr k => rcases h with h | h <;> cases h

/-- A quiet move tells nothing new. -/
theorem tells_quiet {d : Doing} {p p' : Pc Nat} (hlink : Linked d p)
    (h : BlockingQueue.Quiet p p') (htells : tells p' = true) : tells p = true := by
  cases h with
  | unlockLeaving ret => exact (tells_returned ret).symm.trans htells
  | notify ret =>
      -- only `push` notifies, and it returns nothing
      unfold Linked at hlink
      split at hlink
      · cases hlink
      · rw [show ret = .void from hlink.2] at htells
        cases htells
  | lock | relock | unlockPushed | unlockClosing | notifyDequeued | notifyEmpty | notifyFull
  | wake | expire => cases htells

/-- `close` returns after its `notify_all`. -/
theorem pastClose_quiet {d : Doing} {p p' : Pc Nat} (hlink : Linked d p)
    (h : BlockingQueue.Quiet p p') (hpast : pastClose (d, p') = true) :
    pastClose (d, p) = true ∨ wakes .notFull p = true := by
  cases d with
  | joining | shutDown => exact .inl rfl
  | closing =>
      cases h with
      | notifyFull => exact .inr rfl
      | unlockLeaving ret => exact hlink.elim
      | notify ret =>
          obtain ⟨⟨task, hop⟩, -⟩ := hlink
          cases hop
      | lock | relock | unlockPushed | unlockClosing | notifyDequeued | notifyEmpty | wake
      | expire => cases hpast
  | free | submitting | looping | popping | running | exited => cases hpast

section

variable [DecidableEq κ]

/-- One thread goes on outside the queue. -/
theorem told_turn {s s' : PoolState N κ} (hI : Told s) {i : Thread N κ} {d : Doing} {p : Pc Nat}
    (hpc : s'.tasks.pc = Function.update s.tasks.pc i p)
    (hdoing : s'.doing = Function.update s.doing i d)
    (hclosed : s'.tasks.closed = s.tasks.closed)
    (h : tells p = true ∨ pastClose (d, p) = true → s.tasks.closed = true) : Told s' := by
  intro j hj
  unfold places at hj
  rw [hclosed]
  rw [hpc, hdoing] at hj
  by_cases hji : j = i
  · subst hji
    rw [Function.update_self, Function.update_self] at hj
    exact h hj
  · rw [Function.update_of_ne hji, Function.update_of_ne hji] at hj
    exact hI j hj

variable [Fintype κ]

theorem told_queue {s : PoolState N κ} (hP : Pooled s) (hI : Told s)
    {q : QueueState (Thread N κ) Nat} {i : Thread N κ} (h : Effect 0 s.tasks q i)
    (hkeep : s.tasks.closed = true → q.closed = true) : Told { s with tasks := q } := by
  intro j hj
  by_cases hji : j = i
  · subst hji
    rcases h.moves with ⟨hquiet, hsame⟩ | ⟨op, timeout, -, rfl⟩
    · apply hkeep
      rcases hj with hj | hj
      · exact hI j (.inl (tells_quiet (hP.linked j) hquiet hj))
      · rcases pastClose_quiet (hP.linked j) hquiet hj with hpast | hwakes
        · exact hI j (.inr hpast)
        · exact hP.sound.shut j hwakes
    · unfold places QueueState.perform at hj
      dsimp only at hj
      rw [Function.update_self] at hj
      rcases hj with hj | hj
      · exact hkeep (tells_attempt hj)
      · -- a section ends before the call returns
        have hatt := attempted 0 s.tasks.queue s.tasks.closed timeout op
        refine hkeep (hI j (.inr ?_))
        unfold places
        cases hd : s.doing j with
        | joining | shutDown => rfl
        | closing =>
            rw [hd] at hj
            generalize attempt 0 s.tasks.queue s.tasks.closed timeout op = r at hatt hj
            cases hatt <;> cases hj
        | free | submitting | looping | popping | running | exited =>
            rw [hd] at hj
            cases hj
  · have hsame : tells (q.pc j) = tells (s.tasks.pc j) ∧
        pastClose (s.doing j, q.pc j) = pastClose (s.doing j, s.tasks.pc j) := by
      rcases h.others j hji with hpc | hpc
      · rw [hpc]
        exact ⟨rfl, rfl⟩
      · rw [hpc]
        exact ⟨tells_notified _, pastClose_notified _ _⟩
    have hj' : tells (q.pc j) = true ∨ pastClose (s.doing j, q.pc j) = true := hj
    rw [hsame.1, hsame.2] at hj'
    exact hkeep (hI j hj')

theorem told_step {s s' : PoolState N κ} {a : PoolAct N κ} (hP : Pooled s) (hI : Told s)
    (h : step s a = some s') : Told s' := by
  cases a with
  | queue a =>
      rw [step] at h
      split at h
      · cases h
      · next hcall =>
          split at h
          · cases h
          · next q hq =>
              cases h
              obtain ⟨i, he⟩ := effect_of_step (fun i op ha => hcall (by rw [ha]; rfl)) hq
              exact told_queue hP hI he fun hc => (BlockingQueue.closed_step hq hc).1
  | submit i =>
      rw [step] at h
      split at h
      · cases h
        exact told_turn hI rfl rfl rfl (by rintro (h | h) <;> cases h)
      · cases h
        exact told_turn hI rfl rfl rfl (by rintro (h | h) <;> cases h)
      · cases h
  | checked i =>
      rw [step] at h
      split at h
      · next within _ _ _ =>
          cases h
          refine told_turn hI rfl rfl rfl ?_
          cases within <;> rintro (h | h) <;> cases h
      · cases h
        exact told_turn hI rfl rfl rfl (by rintro (h | h) <;> cases h)
      · cases h
  | submitted i =>
      rw [step] at h
      split at h
      · next within _ _ _ =>
          cases h
          refine told_turn hI rfl rfl rfl ?_
          cases within <;> rintro (h | h) <;> cases h
      · next within _ _ _ =>
          cases h
          refine told_turn hI rfl rfl rfl ?_
          cases within <;> rintro (h | h) <;> cases h
      · cases h
  | pop w =>
      rw [step] at h
      split at h
      · cases h
        exact told_turn hI rfl rfl rfl (by rintro (h | h) <;> cases h)
      · cases h
  | popped w =>
      rw [step] at h
      split at h
      · cases h
        exact told_turn hI rfl rfl rfl (by rintro (h | h) <;> cases h)
      · cases h
        exact told_turn hI rfl rfl rfl (by rintro (h | h) <;> cases h)
      · cases h
  | finish w exception =>
      rw [step] at h
      split at h
      · cases h
        exact told_turn hI rfl rfl rfl (by rintro (h | h) <;> cases h)
      · cases h
  | shutdown k =>
      rw [step] at h
      split at h
      · split at h
        · cases h
          exact hI
        · cases h
          exact told_turn hI rfl rfl rfl (by rintro (h | h) <;> cases h)
      · cases h
  | closed k =>
      rw [step] at h
      split at h
      · next hd hpc =>
          cases h
          refine told_turn hI rfl rfl rfl fun _ => hI (.inr k) (.inr ?_)
          unfold places
          rw [hd, hpc]
          rfl
      · cases h
  | join k =>
      rw [step] at h
      split at h
      · next i hd =>
          have hclosed : s.tasks.closed = true := hI (.inr k) (.inr (by unfold places; rw [hd]; rfl))
          split at h
          · split at h
            · cases h
              exact told_turn hI rfl rfl rfl fun _ => hclosed
            · cases h
          · cases h
            exact told_turn hI rfl rfl rfl fun _ => hclosed
      · cases h

/-! ## Inside the pool -/

omit [DecidableEq κ] [Fintype κ] in
/-- The steps that are no call of `submit` or `shutdown` and end no task. -/
def PoolAct.isInside : PoolAct N κ → Bool
  | .queue _ | .checked _ | .submitted _ | .pop _ | .popped _ | .closed _ | .join _ => true
  | .submit _ | .shutdown _ | .finish _ _ => false

/-- What a thread does next inside the pool. -/
inductive Goes : Doing → Doing → Prop where
  | stays (d : Doing) : Goes d d
  | pushes (within : Option Nat) (task : Nat) :
      Goes (.submitting within task false) (.submitting within task true)
  | resumes (within : Option Nat) (task : Nat) (pushing : Bool) :
      Goes (.submitting within task pushing) (resume within)
  | pops : Goes .looping .popping
  | starts (task : Nat) : Goes .popping (.running task)
  | exits : Goes .popping .exited
  | joins : Goes .closing (.joining 0)
  | joined (i : Nat) : Goes (.joining i) (.joining (i + 1))
  | shuts (i : Nat) : Goes (.joining i) .shutDown

/-- What a step inside the pool changes. -/
structure Inside (s s' : PoolState N κ) : Prop where
  doing : ∀ i, Goes (s.doing i) (s'.doing i)
  next : s'.next = s.next
  finished : s'.finished = s.finished
  shutdownDone : s'.shutdownDone = s.shutdownDone
  /-- a submit throws -/
  threw : s'.threw = s.threw ∨ s.tasks.closed = true ∧ ∃ i, (s.doing i).submits ≠ none
  closed : s'.tasks.closed = true → s.tasks.closed = true ∨ ∃ k, s.doing (.inr k) = .closing

omit [Fintype κ] in
theorem goes_update {s s' : PoolState N κ} {i : Thread N κ} {d : Doing}
    (hdoing : s'.doing = Function.update s.doing i d) (h : Goes (s.doing i) d) (j : Thread N κ) :
    Goes (s.doing j) (s'.doing j) := by
  rw [hdoing]
  by_cases hji : j = i
  · subst hji
    rw [Function.update_self]
    exact h
  · rw [Function.update_of_ne hji]
    exact .stays _

/-- Only `shutdown` closes the queue. -/
theorem closing_of_closed {s : PoolState N κ} (hP : Pooled s)
    {q : QueueState (Thread N κ) Nat} {i : Thread N κ} (h : Effect 0 s.tasks q i)
    (hclosed : q.closed = true) :
    s.tasks.closed = true ∨ ∃ k, s.doing (.inr k) = .closing := by
  rcases h.moves with ⟨-, hsame⟩ | ⟨op, timeout, hpc, rfl⟩
  · exact .inl (hsame.closed.symm.trans hclosed)
  · unfold QueueState.perform at hclosed
    by_cases hop : op = .close
    · right
      have hlink := hP.linked i
      have hrole := hP.role i
      unfold Linked at hlink
      split at hlink
      · rcases hpc with hpc | hpc <;> rw [hpc] at hlink <;> cases hlink
      · next o ho =>
          have hclose : (s.doing i).call = some .close := by
            rw [ho]
            rcases hpc with hpc | hpc <;> rw [hpc, hop] at hlink <;> exact congrArg some hlink.symm
          cases hd : s.doing i with
          | closing =>
              cases i with
              | inl w =>
                  rw [hd] at hrole
                  exact hrole.elim
              | inr k => exact ⟨k, hd⟩
          | submitting within task pushing =>
              rw [hd] at hclose
              cases pushing <;> cases hclose
          | free | looping | popping | running | exited | joining | shutDown =>
              rw [hd] at hclose
              cases hclose
    · exact .inl ((attempt_closed hop).symm.trans hclosed)

theorem inside_of_step {s s' : PoolState N κ} {a : PoolAct N κ} (hP : Pooled s) (hI : Told s)
    (ha : a.isInside = true) (h : step s a = some s') : Inside s s' := by
  cases a with
  | queue a =>
      rw [step] at h
      split at h
      · cases h
      · next hcall =>
          split at h
          · cases h
          · next q hq =>
              cases h
              obtain ⟨i, he⟩ := effect_of_step (fun i op ha => hcall (by rw [ha]; rfl)) hq
              exact ⟨fun _ => .stays _, rfl, rfl, rfl, .inl rfl, closing_of_closed hP he⟩
  | checked i =>
      rw [step] at h
      split at h
      · next within task hd hpc =>
          cases h
          have hclosed : s.tasks.closed = true := hI i (.inl (by rw [hpc]; rfl))
          exact ⟨goes_update rfl (by rw [hd]; exact .resumes _ _ _), rfl, rfl, rfl,
            .inr ⟨hclosed, i, by rw [hd]; exact Option.some_ne_none task⟩, .inl⟩
      · next within task hd hpc =>
          cases h
          exact ⟨goes_update rfl (by rw [hd]; exact .pushes _ _), rfl, rfl, rfl, .inl rfl, .inl⟩
      · cases h
  | submitted i =>
      rw [step] at h
      split at h
      · next within task hd hpc =>
          cases h
          exact ⟨goes_update rfl (by rw [hd]; exact .resumes _ _ _), rfl, rfl, rfl, .inl rfl, .inl⟩
      · next within task hd hpc =>
          cases h
          have hclosed : s.tasks.closed = true := hI i (.inl (by rw [hpc]; rfl))
          exact ⟨goes_update rfl (by rw [hd]; exact .resumes _ _ _), rfl, rfl, rfl,
            .inr ⟨hclosed, i, by rw [hd]; exact Option.some_ne_none task⟩, .inl⟩
      · cases h
  | pop w =>
      rw [step] at h
      split at h
      · next hd =>
          cases h
          exact ⟨goes_update rfl (by rw [hd]; exact .pops), rfl, rfl, rfl, .inl rfl, .inl⟩
      · cases h
  | popped w =>
      rw [step] at h
      split at h
      · next task hd hpc =>
          cases h
          exact ⟨goes_update rfl (by rw [hd]; exact .starts _), rfl, rfl, rfl, .inl rfl, .inl⟩
      · next hd hpc =>
          cases h
          exact ⟨goes_update rfl (by rw [hd]; exact .exits), rfl, rfl, rfl, .inl rfl, .inl⟩
      · cases h
  | closed k =>
      rw [step] at h
      split at h
      · next hd hpc =>
          cases h
          exact ⟨goes_update rfl (by rw [hd]; exact .joins), rfl, rfl, rfl, .inl rfl, .inl⟩
      · cases h
  | join k =>
      rw [step] at h
      split at h
      · next i hd =>
          split at h
          · split at h
            · cases h
              exact ⟨goes_update rfl (by rw [hd]; exact .joined _), rfl, rfl, rfl, .inl rfl, .inl⟩
            · cases h
          · cases h
            exact ⟨goes_update rfl (by rw [hd]; exact .shuts _), rfl, rfl, rfl, .inl rfl, .inl⟩
      · cases h
  | submit | shutdown | finish => cases ha

/-- A thread calls the pool or ends a task. -/
structure Moves (s s' : PoolState N κ) (i : Thread N κ) (d : Doing) : Prop where
  doing : s'.doing = Function.update s.doing i d
  threw : s'.threw = s.threw
  closed : s'.tasks.closed = s.tasks.closed

theorem moves_submit {s s' : PoolState N κ} {i : Thread N κ} (hd : s.doing i = .free)
    (h : step s (.submit i) = some s') :
    Moves s s' i (.submitting none s.next false) ∧ s'.next = s.next + 1 ∧
      s'.finished = s.finished ∧ s'.shutdownDone = s.shutdownDone := by
  rw [step, hd] at h
  cases h
  exact ⟨⟨rfl, rfl, rfl⟩, rfl, rfl, rfl⟩

theorem moves_finish {s s' : PoolState N κ} {w : Fin N} {exception : Bool} {task : Nat}
    (hd : s.doing (.inl w) = .running task) (h : step s (.finish w exception) = some s') :
    Moves s s' (.inl w) .looping ∧ s'.next = s.next ∧ s'.finished = s.finished ++ [task] ∧
      s'.shutdownDone = s.shutdownDone := by
  rw [step, hd] at h
  cases h
  exact ⟨⟨rfl, rfl, rfl⟩, rfl, rfl, rfl⟩

/-- The first `shutdown`. -/
theorem moves_shutdown {s s' : PoolState N κ} {k : κ} (hd : s.doing (.inr k) = .free)
    (hfirst : s.shutdownDone = false) (h : step s (.shutdown k) = some s') :
    Moves s s' (.inr k) .closing ∧ s'.next = s.next ∧ s'.finished = s.finished := by
  rw [step, hd, hfirst] at h
  cases h
  exact ⟨⟨rfl, rfl, rfl⟩, rfl, rfl⟩

/-! ## The tasks that are left -/

/-- The tasks that are submitted and not finished, in order. -/
def unfinished (s : PoolState N κ) : List Nat :=
  (List.range s.next).filter fun t => !s.finished.contains t

omit [DecidableEq κ] [Fintype κ] in
theorem unfinished_nodup (s : PoolState N κ) : (unfinished s).Nodup :=
  List.nodup_range.filter _

omit [DecidableEq κ] in
theorem putW_le_submitW (t : Nat) (x : Place) : putW t x ≤ submitW t x := by
  unfold putW submitW
  split_ifs with hput hsubmit
  · exact Nat.le_refl 1
  · cases hd : x.1 with
    | submitting within task pushing =>
        rw [hd] at hput hsubmit
        cases pushing with
        | true => exact absurd hput.1 hsubmit
        | false => cases hput.1
    | free | looping | popping | running | exited | closing | joining | shutDown =>
        rw [hd] at hput
        cases hput.1
  · exact Nat.zero_le _
  · exact Nat.le_refl 0

/-- A task that runs was submitted and is not finished. -/
theorem mem_unfinished_of_running {s : PoolState N κ} (hP : Pooled s) {i : Thread N κ}
    {task : Nat} (hd : s.doing i = .running task) : task ∈ unfinished s := by
  have hrun : 1 ≤ total (runW task) (places s) := by
    have hone : runW task (places s i) = 1 := by
      rw [runW_some (congrArg Doing.runs hd), if_pos rfl]
    rw [← hone]
    exact Finset.single_le_sum (f := fun j => runW task (places s j)) (fun _ _ => Nat.zero_le _)
      (Finset.mem_univ i)
  have hput : total (putW task) (places s) ≤ total (submitW task) (places s) :=
    Finset.sum_le_sum fun j _ => putW_le_submitW task (places s j)
  have hsubmits := hP.submits task
  have hpushes := hP.pushes task
  have hruns := hP.runs task
  have hstarted := started_count_le hP task
  have hlog := pushLog_count_le hP task
  have hlt : task < s.next := by
    by_contra hge
    rw [if_neg hge] at hsubmits
    omega
  have hnot : task ∉ s.finished := fun hmem => by
    have := List.count_pos_iff.mpr hmem
    omega
  exact List.mem_filter.mpr ⟨List.mem_range.mpr hlt, by simpa using hnot⟩

omit [DecidableEq κ] [Fintype κ] in
theorem unfinished_finish {s s' : PoolState N κ} {task : Nat} (hnext : s'.next = s.next)
    (hfinished : s'.finished = s.finished ++ [task]) :
    unfinished s' = (unfinished s).erase task := by
  rw [(unfinished_nodup s).erase_eq_filter]
  unfold unfinished
  rw [hnext, hfinished, List.filter_filter]
  refine List.filter_congr fun t _ => ?_
  by_cases htask : t = task
  · simp [htask]
  · simp [htask]

omit [DecidableEq κ] [Fintype κ] in
theorem unfinished_submit {s s' : PoolState N κ} (hnext : s'.next = s.next + 1)
    (hfinished : s'.finished = s.finished) (hnew : s.next ∉ s.finished) :
    unfinished s' = unfinished s ++ [s.next] := by
  unfold unfinished
  rw [hnext, hfinished, List.range_succ, List.filter_append]
  simp [hnew]

/-- A finished task was submitted. -/
theorem lt_next_of_finished {s : PoolState N κ} (hP : Pooled s) {t : Nat} (ht : t ∈ s.finished) :
    t < s.next := by
  have hput : total (putW t) (places s) ≤ total (submitW t) (places s) :=
    Finset.sum_le_sum fun j _ => putW_le_submitW t (places s j)
  have hsubmits := hP.submits t
  have hpushes := hP.pushes t
  have hruns := hP.runs t
  have hstarted := started_count_le hP t
  have hpos := List.count_pos_iff.mpr ht
  by_contra hge
  rw [if_neg hge] at hsubmits
  omega

end

end RtspServer.ThreadPool
