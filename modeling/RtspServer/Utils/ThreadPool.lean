/-
  Model of `ThreadPool<N>` over the model of its queue: `N` workers and any finite set `κ` of
  other threads. A `submit` asks `is_closed`, makes the task and pushes it; a task is the number
  of its submit, and it may itself submit. A worker pops, runs the task, whose exception stays in
  the `packaged_task`, and pops again until it gets nothing. The `shutdown` that comes first
  closes the queue and joins the workers one by one; a later one returns at once.

  The steps of the queue are those of `BlockingQueue`, one by one. `accepted`, `threw`, `started`
  and `finished` log how the submits ended and what the workers did; no step reads them.

  `runs_exactly_once`: what this means for every run.
-/
import RtspServer.Utils.BlockingQueue

namespace RtspServer.ThreadPool

open Threads BlockingQueue

/-- What a thread does outside the queue, or which call it is in. -/
inductive Doing where
  /-- a thread that is no worker, outside the pool -/
  | free
  /-- `submit`, by a thread that is free or by a task; in `is_closed` or in `push` -/
  | submitting (within : Option Nat) (task : Nat) (pushing : Bool)
  /-- `workerLoop`, before `tasks_.pop()` -/
  | looping
  | popping
  | running (task : Nat)
  /-- the worker has returned -/
  | exited
  /-- `shutdown`, in `tasks_.close()` -/
  | closing
  /-- the first `i` workers are joined -/
  | joining (i : Nat)
  | shutDown
  deriving DecidableEq

/-- The threads of the program: the workers and the others. -/
abbrev Thread (N : Nat) (κ : Type) := Fin N ⊕ κ

structure PoolState (N : Nat) (κ : Type) where
  /-- `tasks_` -/
  tasks : QueueState (Thread N κ) Nat
  doing : Thread N κ → Doing
  shutdownDone : Bool
  /-- the number of submits so far -/
  next : Nat
  accepted : List Nat
  threw : List Nat
  started : List Nat
  finished : List Nat

variable {N : Nat} {κ : Type}

def init : PoolState N κ :=
  { tasks := BlockingQueue.init
    doing := fun i => match i with
      | .inl _ => .looping
      | .inr _ => .free
    shutdownDone := false, next := 0, accepted := [], threw := [], started := [], finished := [] }

inductive PoolAct (N : Nat) (κ : Type) where
  /-- a step inside a call of the queue -/
  | queue (a : Act (Thread N κ) Nat)
  /-- `submit` is called: `is_closed` -/
  | submit (i : Thread N κ)
  /-- `is_closed` has returned: throw or push -/
  | checked (i : Thread N κ)
  /-- `push` has returned or thrown -/
  | submitted (i : Thread N κ)
  /-- a worker calls `pop` -/
  | pop (w : Fin N)
  /-- `pop` has returned -/
  | popped (w : Fin N)
  /-- the task is over; an exception ends up in its future -/
  | finish (w : Fin N) (exception : Bool)
  | shutdown (k : κ)
  /-- `close` has returned -/
  | closed (k : κ)
  /-- `join` of the next worker returns, or all are joined -/
  | join (k : κ)

def isCall : Act (Thread N κ) Nat → Bool
  | .call _ _ => true
  | _ => false

/-- After a submit: back to the task or outside. -/
def resume : Option Nat → Doing
  | none => .free
  | some task => .running task

section

variable [DecidableEq κ]

/-- Thread `i` takes what the queue returned or calls it, and goes on. -/
def PoolState.turn (s : PoolState N κ) (i : Thread N κ) (d : Doing) (p : Pc Nat) :
    PoolState N κ :=
  { s with tasks := s.tasks.at i p, doing := Function.update s.doing i d }

variable [Fintype κ]

def step (s : PoolState N κ) : PoolAct N κ → Option (PoolState N κ)
  | .queue a =>
      if isCall a then none
      else
        match BlockingQueue.step 0 s.tasks a with
        | none => none
        | some q => some { s with tasks := q }
  | .submit i =>
      match s.doing i with
      | .free => some
          { s.turn i (.submitting none s.next false) (.entering .isClosed) with next := s.next + 1 }
      | .running task => some
          { s.turn i (.submitting (some task) s.next false) (.entering .isClosed) with
            next := s.next + 1 }
      | _ => none
  | .checked i =>
      match s.doing i, s.tasks.pc i with
      | .submitting within task false, .returned (.bool true) => some
          { s.turn i (resume within) .idle with threw := s.threw ++ [task] }
      | .submitting within task false, .returned (.bool false) =>
          some (s.turn i (.submitting within task true) (.entering (.push task)))
      | _, _ => none
  | .submitted i =>
      match s.doing i, s.tasks.pc i with
      | .submitting within task true, .returned .void => some
          { s.turn i (resume within) .idle with accepted := s.accepted ++ [task] }
      | .submitting within task true, .returned .threw => some
          { s.turn i (resume within) .idle with threw := s.threw ++ [task] }
      | _, _ => none
  | .pop w =>
      match s.doing (.inl w) with
      | .looping => some (s.turn (.inl w) .popping (.entering .pop))
      | _ => none
  | .popped w =>
      match s.doing (.inl w), s.tasks.pc (.inl w) with
      | .popping, .returned (.item (some task)) => some
          { s.turn (.inl w) (.running task) .idle with started := s.started ++ [task] }
      | .popping, .returned (.item none) => some (s.turn (.inl w) .exited .idle)
      | _, _ => none
  | .finish w _ =>
      match s.doing (.inl w) with
      | .running task => some
          { s.turn (.inl w) .looping .idle with finished := s.finished ++ [task] }
      | _ => none
  | .shutdown k =>
      match s.doing (.inr k) with
      | .free =>
          if s.shutdownDone then some s
          else some { s.turn (.inr k) .closing (.entering .close) with shutdownDone := true }
      | _ => none
  | .closed k =>
      match s.doing (.inr k), s.tasks.pc (.inr k) with
      | .closing, .returned .void => some (s.turn (.inr k) (.joining 0) .idle)
      | _, _ => none
  | .join k =>
      match s.doing (.inr k) with
      | .joining i =>
          if h : i < N then
            if s.doing (.inl ⟨i, h⟩) = .exited then some (s.turn (.inr k) (.joining (i + 1)) .idle)
            else none
          else some (s.turn (.inr k) .shutDown .idle)
      | _ => none

end

/-! ## Where a thread is in the queue -/

/-- The thread is in this call of the queue. -/
def InCall : Op Nat → Pc Nat → Prop
  | op, .entering o | op, .inside o | op, .woken o _ | op, .back o _ => o = op
  | op, .asleep o => o = op ∧ op.cond ≠ none
  | op, .pushed ret | op, .notifying ret => (∃ task, op = .push task) ∧ ret = .void
  | op, .dequeued _ => op = .pop
  | op, .closing | op, .wakingEmpty | op, .wakingFull => op = .close
  | op, .leaving ret =>
      match op with
      | .push _ => ret = .threw
      | .pop => ∃ x, ret = .item x
      | .isClosed => ∃ b, ret = .bool b
      | _ => False
  | op, .returned ret =>
      match op with
      | .push _ => ret = .threw ∨ ret = .void
      | .pop => ∃ x, ret = .item x
      | .isClosed => ∃ b, ret = .bool b
      | .close => ret = .void
      | _ => False
  | _, .idle => False

/-- The call that the thread is in, if it is in one. -/
def Doing.call : Doing → Option (Op Nat)
  | .submitting _ _ false => some .isClosed
  | .submitting _ task true => some (.push task)
  | .popping => some .pop
  | .closing => some .close
  | .free | .looping | .running _ | .exited | .joining _ | .shutDown => none

/-- The thread is in the queue where its part of the program says. -/
def Linked (d : Doing) (p : Pc Nat) : Prop :=
  match d.call with
  | none => p = .idle
  | some op => InCall op p

/-- What the workers and what the others do. -/
def Role : Thread N κ → Doing → Prop
  | .inl _, .looping | .inl _, .popping | .inl _, .running _ | .inl _, .exited => True
  | .inl _, .submitting within _ _ => within ≠ none
  | .inr _, .free | .inr _, .closing | .inr _, .joining _ | .inr _, .shutDown => True
  | .inr _, .submitting within _ _ => within = none
  | _, _ => False

theorem inCall_notified {op : Op Nat} {p : Pc Nat} (h : InCall op p) :
    InCall op (notified p) := by
  cases p with
  | asleep o => exact h.1
  | idle | entering | inside | woken | back | pushed | notifying | dequeued | closing
  | wakingEmpty | wakingFull | leaving | returned => exact h

/-! ## Where a task is -/

/-- A thread with its place in the queue. -/
abbrev Place := Doing × Pc Nat

def places (s : PoolState N κ) (i : Thread N κ) : Place := (s.doing i, s.tasks.pc i)

/-- The task that the thread submits. -/
def Doing.submits : Doing → Option Nat
  | .submitting _ task _ => some task
  | _ => none

/-- The task that the thread has called `push` for. -/
def Doing.pushes : Doing → Option Nat
  | .submitting _ task true => some task
  | _ => none

/-- The task that the thread runs. -/
def Doing.runs : Doing → Option Nat
  | .running task => some task
  | .submitting within _ _ => within
  | _ => none

/-- `push_back` of the call is done. -/
def done : Pc Nat → Bool
  | .pushed _ | .notifying _ | .returned .void => true
  | _ => false

def retTask : Ret Nat → Option Nat
  | .item x => x
  | _ => none

/-- The task that is popped and not yet started. -/
def heldTask : Pc Nat → Option Nat
  | .dequeued task => some task
  | .leaving ret | .returned ret => retTask ret
  | _ => none

/-- `pop` returns nothing. -/
def gotNothing : Pc Nat → Bool
  | .leaving ret | .returned ret => ret = .item none
  | _ => false

/-- The task is being submitted. -/
def submitW (t : Nat) (x : Place) : Nat := if x.1.submits = some t then 1 else 0

/-- The task is in the queue, or was, and its submit has not returned. -/
def putW (t : Nat) (x : Place) : Nat := if x.1.pushes = some t ∧ done x.2 then 1 else 0

/-- The task is popped and not started. -/
def heldW (t : Nat) (x : Place) : Nat := if heldTask x.2 = some t then 1 else 0

/-- The task is running. -/
def runW (t : Nat) (x : Place) : Nat := if x.1.runs = some t then 1 else 0

section

variable {x y : Place} {task : Nat}

theorem submitW_none (h : x.1.submits = none) (t : Nat) : submitW t x = 0 :=
  if_neg (by rw [h]; exact fun h => nomatch h)

theorem submitW_some (h : x.1.submits = some task) (t : Nat) :
    submitW t x = if task = t then 1 else 0 := by
  unfold submitW
  rw [h]
  simp only [Option.some.injEq]

theorem putW_none (h : x.1.pushes = none) (t : Nat) : putW t x = 0 :=
  if_neg (by rw [h]; exact fun h => nomatch h.1)

theorem putW_not_done (h : done x.2 = false) (t : Nat) : putW t x = 0 :=
  if_neg (by rw [h]; exact fun h => nomatch h.2)

theorem putW_done (h : x.1.pushes = some task) (hdone : done x.2 = true) (t : Nat) :
    putW t x = if task = t then 1 else 0 := by
  unfold putW
  rw [h, hdone]
  simp only [Option.some.injEq, and_true]

theorem heldW_none (h : heldTask x.2 = none) (t : Nat) : heldW t x = 0 :=
  if_neg (by rw [h]; exact fun h => nomatch h)

theorem heldW_some (h : heldTask x.2 = some task) (t : Nat) :
    heldW t x = if task = t then 1 else 0 := by
  unfold heldW
  rw [h]
  simp only [Option.some.injEq]

theorem runW_none (h : x.1.runs = none) (t : Nat) : runW t x = 0 :=
  if_neg (by rw [h]; exact fun h => nomatch h)

theorem runW_some (h : x.1.runs = some task) (t : Nat) :
    runW t x = if task = t then 1 else 0 := by
  unfold runW
  rw [h]
  simp only [Option.some.injEq]

theorem runW_congr (h : x.1.runs = y.1.runs) (t : Nat) : runW t x = runW t y := by
  unfold runW
  rw [h]

end

/-- The worker has got nothing and stops. -/
def Over (x : Place) : Prop := x.1 = .exited ∨ x.1 = .popping ∧ gotNothing x.2 = true

/-- The same tasks are at two places of a thread. -/
structure SameTasks (d : Doing) (p p' : Pc Nat) : Prop where
  done : d.pushes ≠ none → done p' = done p
  held : heldTask p' = heldTask p
  nothing : gotNothing p' = gotNothing p

section

variable {d : Doing} {p p' : Pc Nat}

theorem SameTasks.put_eq (h : SameTasks d p p') (t : Nat) : putW t (d, p') = putW t (d, p) := by
  unfold putW
  dsimp only
  cases hd : d.pushes with
  | none => rfl
  | some task => rw [h.done (by rw [hd]; exact Option.some_ne_none task)]

theorem SameTasks.held_eq (h : SameTasks d p p') (t : Nat) :
    heldW t (d, p') = heldW t (d, p) := by
  unfold heldW
  dsimp only
  rw [h.held]

theorem SameTasks.over_iff (h : SameTasks d p p') : Over (d, p') ↔ Over (d, p) := by
  unfold Over
  dsimp only
  rw [h.nothing]

theorem sameTasks_notified (d : Doing) (p : Pc Nat) : SameTasks d p (notified p) := by
  cases p <;> exact ⟨fun _ => rfl, rfl, rfl⟩

theorem linked_notified (h : Linked d p) : Linked d (notified p) := by
  unfold Linked at h ⊢
  split
  · next hc =>
      rw [hc] at h
      rw [h]
      rfl
  · next op hc =>
      rw [hc] at h
      exact inCall_notified h

theorem inCall_quiet {op : Op Nat} (h : InCall op p) (hq : BlockingQueue.Quiet p p') :
    InCall op p' := by
  cases hq with
  | lock | relock | expire | unlockClosing | notifyEmpty | unlockPushed => exact h
  | wake => exact h.1
  | unlockLeaving ret =>
      cases op with
      | push => exact .inl h
      | pop | isClosed => exact h
      | pushFor | tryPush | popFor | tryPop | close => exact h.elim
  | notify ret =>
      obtain ⟨⟨task, rfl⟩, hret⟩ := h
      exact .inr hret
  | notifyDequeued value =>
      obtain rfl : op = .pop := h
      exact ⟨_, rfl⟩
  | notifyFull =>
      obtain rfl : op = .close := h
      rfl

theorem pushes_call (h : d.pushes ≠ none) : ∃ task, d.call = some (.push task) := by
  cases d with
  | submitting within task pushing =>
      cases pushing with
      | false => exact absurd rfl h
      | true => exact ⟨task, rfl⟩
  | free | looping | popping | running | exited | closing | joining | shutDown =>
      exact absurd rfl h

/-- A thread that moves quietly carries its task along. -/
theorem linked_quiet (h : Linked d p) (hq : BlockingQueue.Quiet p p') :
    Linked d p' ∧ SameTasks d p p' := by
  unfold Linked at h ⊢
  split at h
  · rw [h] at hq
    cases hq
  · next op hc =>
      refine ⟨inCall_quiet h hq, ?_⟩
      have hpush : d.pushes ≠ none → ∃ task, op = .push task := by
        intro hd
        obtain ⟨task, htask⟩ := pushes_call hd
        exact ⟨task, Option.some.inj (hc.symm.trans htask)⟩
      cases hq with
      | lock | relock | expire | unlockClosing | notifyEmpty | unlockPushed | wake
      | notifyDequeued => exact ⟨fun _ => rfl, rfl, rfl⟩
      | unlockLeaving ret =>
          refine ⟨fun hd => ?_, rfl, rfl⟩
          obtain ⟨task, rfl⟩ := hpush hd
          rw [show ret = .threw from h]
          rfl
      | notify ret =>
          rw [show ret = .void from h.2]
          exact ⟨fun _ => rfl, rfl, rfl⟩
      | notifyFull =>
          refine ⟨fun hd => ?_, rfl, rfl⟩
          obtain ⟨task, rfl⟩ := hpush hd
          cases h

end

/-! ## A section of a thread -/

/-- A section of a thread puts and takes what the thread carries afterwards, and a worker stops
    only when the queue is closed and empty. -/
structure Accounts (d : Doing) (op : Op Nat) (queue : List Nat) (closed : Bool)
    (r : Section Nat) : Prop where
  linked : Linked d r.pc
  put : ∀ t, (BlockingQueue.put op r.pc).count t = putW t (d, r.pc)
  taken : ∀ t, (BlockingQueue.taken r.pc).count t = heldW t (d, r.pc)
  stop : Over (d, r.pc) → r.closed = true ∧ r.queue = []
  stays : closed = true → queue = [] → r.closed = true ∧ r.queue = []

theorem isFull_zero (queue : List Nat) : isFull 0 queue = false :=
  decide_eq_false fun h => Nat.lt_irrefl 0 h.1

theorem not_over {d : Doing} {p : Pc Nat} (hd : d ≠ .exited) (hp : gotNothing p = false) :
    ¬ Over (d, p) := by
  rintro (h | ⟨-, h⟩)
  · exact hd h
  · exact absurd (hp.symm.trans h) (by decide)

theorem accounts {d : Doing} {op : Op Nat} (hc : d.call = some op) (queue : List Nat)
    (closed timeout : Bool) : Accounts d op queue closed (attempt 0 queue closed timeout op) := by
  cases d with
  | submitting within task pushing =>
      cases pushing with
      | false =>
          obtain rfl := Option.some.inj hc
          exact ⟨⟨closed, rfl⟩, fun t => rfl, fun t => rfl,
            fun h => absurd h (not_over (by simp) rfl), fun hclosed hq => ⟨hclosed, hq⟩⟩
      | true =>
          obtain rfl := Option.some.inj hc
          rw [attempt, isFull_zero]
          cases closed with
          | true =>
              refine ⟨rfl, fun t => ?_, fun t => rfl, fun h => absurd h (not_over (by simp) rfl),
                fun hclosed hq => ⟨hclosed, hq⟩⟩
              exact (if_neg fun h => Bool.false_ne_true h.2).symm
          | false =>
              refine ⟨⟨⟨task, rfl⟩, rfl⟩, fun t => ?_, fun t => rfl,
                fun h => absurd h (not_over (by simp) rfl), fun hclosed _ => by cases hclosed⟩
              simp [pushBack, BlockingQueue.put, Op.value, putW, Doing.pushes, done,
                List.count_singleton]
  | popping =>
      obtain rfl := Option.some.inj hc
      have hput : ∀ p t, putW t (Doing.popping, p) = 0 := fun p t => if_neg fun h => by cases h.1
      rw [attempt]
      cases queue with
      | cons v rest =>
          refine ⟨rfl, fun t => ?_, fun t => ?_, fun h => absurd h (not_over (by simp) rfl),
            fun _ hq => by cases hq⟩
          · exact (hput _ t).symm
          · simp [dequeue, BlockingQueue.taken, heldW, heldTask, List.count_singleton]
      | nil =>
          cases closed with
          | true =>
              exact ⟨⟨none, rfl⟩, fun t => (hput _ t).symm, fun t => rfl,
                fun _ => ⟨rfl, rfl⟩, fun _ _ => ⟨rfl, rfl⟩⟩
          | false =>
              exact ⟨⟨rfl, by simp [Op.cond]⟩, fun t => (hput _ t).symm, fun t => rfl,
                fun h => absurd h (not_over (by simp) rfl), fun hclosed _ => by cases hclosed⟩
  | closing =>
      obtain rfl := Option.some.inj hc
      exact ⟨rfl, fun t => rfl, fun t => rfl, fun h => absurd h (not_over (by simp) rfl),
        fun _ hq => ⟨rfl, hq⟩⟩
  | free | looping | running | exited | joining | shutDown => cases hc

/-! ## The invariant -/

/-- What holds in every state. -/
structure Pooled [Fintype κ] [DecidableEq κ] (s : PoolState N κ) : Prop where
  sound : Sound 0 s.tasks
  linked : ∀ i, Linked (s.doing i) (s.tasks.pc i)
  role : ∀ i, Role i (s.doing i)
  /-- a submit has returned, has thrown or is under way -/
  submits : ∀ t, s.accepted.count t + s.threw.count t + total (submitW t) (places s) =
    if t < s.next then 1 else 0
  /-- what was pushed is accepted, or its submit is about to return -/
  pushes : ∀ t, s.tasks.pushLog.count t = s.accepted.count t + total (putW t) (places s)
  /-- what was popped is started, or a worker is about to start it -/
  pops : ∀ t, s.tasks.popLog.count t = s.started.count t + total (heldW t) (places s)
  /-- what was started is finished or running -/
  runs : ∀ t, s.started.count t = s.finished.count t + total (runW t) (places s)
  ended : ∀ i, Over (places s i) → s.tasks.closed = true ∧ s.tasks.queue = []
  joined : ∀ k i, s.doing (.inr k) = .joining i →
    ∀ w : Fin N, w.val < i → s.doing (.inl w) = .exited
  shut : ∀ k, s.doing (.inr k) = .shutDown → ∀ w : Fin N, s.doing (.inl w) = .exited

section

variable [Fintype κ] [DecidableEq κ]

theorem pooled_init : Pooled (init : PoolState N κ) := by
  refine ⟨sound_init 0, fun i => ?_, fun i => ?_, fun t => ?_, fun t => ?_, fun t => ?_,
    fun t => ?_, fun i h => ?_, fun k i h => ?_, fun k h => ?_⟩
  · cases i <;> rfl
  · cases i <;> trivial
  · rw [total_eq_zero fun i => ?_]
    · exact (if_neg (Nat.not_lt_zero t)).symm
    · cases i <;> rfl
  · rw [total_eq_zero fun i => ?_]
    · rfl
    · cases i <;> rfl
  · rw [total_eq_zero fun i => ?_]
    · rfl
    · cases i <;> rfl
  · rw [total_eq_zero fun i => ?_]
    · rfl
    · cases i <;> rfl
  · rcases h with h | ⟨h, -⟩
    · cases i <;> cases h
    · cases i <;> cases h
  · cases h
  · cases h

/-- A step inside a call of the queue. -/
theorem pooled_queue {s : PoolState N κ} (hI : Pooled s) {q : QueueState (Thread N κ) Nat}
    {i : Thread N κ} (he : Effect 0 s.tasks q i) (hq : Sound 0 q) :
    Pooled { s with tasks := q } := by
  have hothers : ∀ j, j ≠ i → SameTasks (s.doing j) (s.tasks.pc j) (q.pc j) := by
    intro j hj
    rcases he.others j hj with h | h
    · rw [h]
      exact ⟨fun _ => rfl, rfl, rfl⟩
    · rw [h]
      exact sameTasks_notified _ _
  have hlinked : ∀ j, j ≠ i → Linked (s.doing j) (q.pc j) := by
    intro j hj
    rcases he.others j hj with h | h
    · rw [h]
      exact hI.linked j
    · rw [h]
      exact linked_notified (hI.linked j)
  have hput : ∀ t, total (putW t) (places { s with tasks := q }) + putW t (places s i) =
      total (putW t) (places s) + putW t (s.doing i, q.pc i) := fun t =>
    total_of_others fun j hj => (hothers j hj).put_eq t
  have hheld : ∀ t, total (heldW t) (places { s with tasks := q }) + heldW t (places s i) =
      total (heldW t) (places s) + heldW t (s.doing i, q.pc i) := fun t =>
    total_of_others fun j hj => (hothers j hj).held_eq t
  -- what the thread itself has to do
  suffices hself : Linked (s.doing i) (q.pc i) ∧
      (∀ t, q.pushLog.count t + putW t (places s i) =
        s.tasks.pushLog.count t + putW t (s.doing i, q.pc i)) ∧
      (∀ t, q.popLog.count t + heldW t (places s i) =
        s.tasks.popLog.count t + heldW t (s.doing i, q.pc i)) ∧
      (Over (s.doing i, q.pc i) → q.closed = true ∧ q.queue = []) ∧
      (s.tasks.closed = true → s.tasks.queue = [] → q.closed = true ∧ q.queue = []) by
    obtain ⟨hlink, hpush, hpop, hover, hstays⟩ := hself
    refine ⟨hq, fun j => ?_, hI.role, hI.submits, fun t => ?_, fun t => ?_, hI.runs, fun j hj => ?_,
      hI.joined, hI.shut⟩
    · by_cases hji : j = i
      · rw [hji]
        exact hlink
      · exact hlinked j hji
    · have h₁ := hput t
      have h₂ := hpush t
      have h₃ := hI.pushes t
      dsimp only
      omega
    · have h₁ := hheld t
      have h₂ := hpop t
      have h₃ := hI.pops t
      dsimp only
      omega
    · by_cases hji : j = i
      · rw [hji] at hj
        exact hover hj
      · obtain ⟨hclosed, hempty⟩ := hI.ended j ((hothers j hji).over_iff.mp hj)
        exact hstays hclosed hempty
  rcases he.moves with ⟨hquiet, hsame⟩ | ⟨op, timeout, hi, hperform⟩
  · obtain ⟨hlink, htasks⟩ := linked_quiet (hI.linked i) hquiet
    rw [hsame.queue, hsame.closed, hsame.pushLog, hsame.popLog]
    refine ⟨hlink, fun t => ?_, fun t => ?_, fun h => hI.ended i (htasks.over_iff.mp h),
      fun hclosed hempty => ⟨hclosed, hempty⟩⟩
    · rw [htasks.put_eq]
      rfl
    · rw [htasks.held_eq]
      rfl
  · have hcall : (s.doing i).call = some op := by
      have hlink := hI.linked i
      unfold Linked at hlink
      split at hlink
      · rcases hi with hi | hi
        · rw [hi] at hlink
          cases hlink
        · rw [hi] at hlink
          cases hlink
      · next op' hc =>
          rcases hi with hi | hi
          · rw [hi] at hlink
            rw [hc, show op = op' from hlink]
          · rw [hi] at hlink
            rw [hc, show op = op' from hlink]
    have hbare : (∀ t, putW t (places s i) = 0) ∧ ∀ t, heldW t (places s i) = 0 := by
      unfold places putW heldW
      rcases hi with hi | hi
      · rw [hi]
        exact ⟨fun t => if_neg fun h => Bool.false_ne_true h.2, fun t => rfl⟩
      · rw [hi]
        exact ⟨fun t => if_neg fun h => Bool.false_ne_true h.2, fun t => rfl⟩
    have hacc := accounts hcall s.tasks.queue s.tasks.closed timeout
    have hpc : q.pc i = (attempt 0 s.tasks.queue s.tasks.closed timeout op).pc := by
      rw [hperform]
      exact Function.update_self _ _ _
    rw [hpc]
    refine ⟨hacc.linked, fun t => ?_, fun t => ?_, fun h => ?_, fun hclosed hempty => ?_⟩
    · rw [hbare.1, ← hacc.put, hperform]
      exact List.count_append
    · rw [hbare.2, ← hacc.taken, hperform]
      exact List.count_append
    · rw [hperform]
      exact hacc.stop h
    · rw [hperform]
      exact hacc.stays hclosed hempty

/-- What a turn of thread `i` to `(d, p)` has to keep: each task stays in one place. -/
structure Fair (s s' : PoolState N κ) (i : Thread N κ) (d : Doing) (p : Pc Nat) : Prop where
  tasks : s'.tasks = s.tasks.at i p
  doing : s'.doing = Function.update s.doing i d
  outside : s.tasks.pc i = .idle ∨ ∃ ret, s.tasks.pc i = .returned ret
  enters : p = .idle ∨ ∃ op, p = .entering op
  linked : Linked d p
  role : Role i d
  submits : ∀ t, s'.accepted.count t + s'.threw.count t + submitW t (d, p) +
      (if t < s.next then 1 else 0) =
    s.accepted.count t + s.threw.count t + submitW t (places s i) + if t < s'.next then 1 else 0
  pushes : ∀ t, s'.accepted.count t + putW t (d, p) = s.accepted.count t + putW t (places s i)
  pops : ∀ t, s'.started.count t + heldW t (d, p) = s.started.count t + heldW t (places s i)
  runs : ∀ t, s'.started.count t + s.finished.count t + runW t (places s i) =
    s.started.count t + s'.finished.count t + runW t (d, p)
  ended : d = .exited → s.tasks.closed = true ∧ s.tasks.queue = []
  running : s.doing i ≠ .exited
  joined : ∀ j, d = .joining j → ∀ w : Fin N, w.val < j → s.doing (.inl w) = .exited
  shut : d = .shutDown → ∀ w : Fin N, s.doing (.inl w) = .exited

theorem pooled_turn {s s' : PoolState N κ} (hI : Pooled s) {i : Thread N κ} {d : Doing}
    {p : Pc Nat} (h : Fair s s' i d p) : Pooled s' := by
  have hpc : s'.tasks.pc = Function.update s.tasks.pc i p := by rw [h.tasks]; rfl
  have hplace : places s' i = (d, p) := by
    unfold places
    rw [h.doing, hpc, Function.update_self, Function.update_self]
  have hplaces : ∀ j, j ≠ i → places s' j = places s j := by
    intro j hj
    unfold places
    rw [h.doing, hpc, Function.update_of_ne hj, Function.update_of_ne hj]
  have htotal : ∀ w : Place → Nat,
      total w (places s') + w (places s i) = total w (places s) + w (d, p) := by
    intro w
    rw [← hplace]
    exact total_of_others fun j hj => by rw [hplaces j hj]
  have hexit : ∀ w : Fin N, s.doing (.inl w) = .exited → s'.doing (.inl w) = .exited := by
    intro w hw
    rw [h.doing, Function.update_of_ne, hw]
    rintro rfl
    exact h.running hw
  refine ⟨?_, fun j => ?_, fun j => ?_, fun t => ?_, fun t => ?_, fun t => ?_, fun t => ?_,
    fun j hj => ?_, fun k j hk w hw => ?_, fun k hk w => ?_⟩
  · have hholds : holds (s.tasks.pc i) = false := by
      rcases h.outside with ho | ⟨ret, ho⟩ <;> rw [ho] <;> rfl
    have hp : holds p = false ∧ (∀ c, sleeps c p = false) ∧ ∀ c, wakes c p = false := by
      rcases h.enters with rfl | ⟨op, rfl⟩ <;> exact ⟨rfl, fun _ => rfl, fun _ => rfl⟩
    have hold : (∀ c, due c (s.tasks.pc i) = 0) ∧ ∀ c, wakes c (s.tasks.pc i) = false := by
      rcases h.outside with ho | ⟨ret, ho⟩ <;> rw [ho] <;> exact ⟨fun _ => rfl, fun _ => rfl⟩
    rw [h.tasks]
    exact sound_at hI.sound (mutex_keep hI.sound.mutex i p (hp.1.trans hholds.symm)) hp.2.1
      (fun c => by rw [hold.1]; exact Nat.zero_le _) fun c => by rw [hold.2, hp.2.2]
  · rw [h.doing, hpc]
    by_cases hji : j = i
    · rw [hji, Function.update_self, Function.update_self]
      exact h.linked
    · rw [Function.update_of_ne hji, Function.update_of_ne hji]
      exact hI.linked j
  · rw [h.doing]
    by_cases hji : j = i
    · rw [hji, Function.update_self]
      exact h.role
    · rw [Function.update_of_ne hji]
      exact hI.role j
  · have h₁ := htotal (submitW t)
    have h₂ := h.submits t
    have h₃ := hI.submits t
    omega
  · have h₁ := htotal (putW t)
    have h₂ := h.pushes t
    have h₃ := hI.pushes t
    rw [h.tasks]
    change s.tasks.pushLog.count t = _
    omega
  · have h₁ := htotal (heldW t)
    have h₂ := h.pops t
    have h₃ := hI.pops t
    rw [h.tasks]
    change s.tasks.popLog.count t = _
    omega
  · have h₁ := htotal (runW t)
    have h₂ := h.runs t
    have h₃ := hI.runs t
    omega
  · rw [h.tasks]
    by_cases hji : j = i
    · rw [hji, hplace] at hj
      rcases hj with hj | ⟨-, hj⟩
      · exact h.ended hj
      · rcases h.enters with rfl | ⟨op, rfl⟩
        · cases hj
        · cases hj
    · rw [hplaces j hji] at hj
      exact hI.ended j hj
  · refine hexit w ?_
    rw [h.doing] at hk
    by_cases hki : .inr k = i
    · rw [hki, Function.update_self] at hk
      exact h.joined j hk w hw
    · rw [Function.update_of_ne hki] at hk
      exact hI.joined k j hk w hw
  · refine hexit w ?_
    rw [h.doing] at hk
    by_cases hki : .inr k = i
    · rw [hki, Function.update_self] at hk
      exact h.shut hk w
    · rw [Function.update_of_ne hki] at hk
      exact hI.shut k hk w

theorem idle_of_linked {d : Doing} {p : Pc Nat} (h : Linked d p) (hc : d.call = none) :
    p = .idle := by
  unfold Linked at h
  rwa [hc] at h

theorem count_snoc (l : List Nat) (task t : Nat) :
    (l ++ [task]).count t = l.count t + if task = t then 1 else 0 := by
  rw [List.count_append, List.count_singleton]
  simp [beq_iff_eq]

/-- A thread calls `submit`. -/
theorem pooled_submit {s : PoolState N κ} (hI : Pooled s) {i : Thread N κ} {within : Option Nat}
    (hd : s.doing i = resume within) (hrole : Role i (.submitting within s.next false)) :
    Pooled { s.turn i (.submitting within s.next false) (.entering .isClosed) with
      next := s.next + 1 } := by
  have hcall : (s.doing i).call = none := by rw [hd]; cases within <;> rfl
  have hpc := idle_of_linked (hI.linked i) hcall
  have hruns : (s.doing i).runs = within := by rw [hd]; cases within <;> rfl
  have hsub : (s.doing i).submits = none := by rw [hd]; cases within <;> rfl
  have hbare : done (places s i).2 = false ∧ heldTask (places s i).2 = none := by
    rw [show (places s i).2 = .idle from hpc]
    exact ⟨rfl, rfl⟩
  refine pooled_turn hI (i := i) ⟨rfl, rfl, .inl hpc, .inr ⟨_, rfl⟩, rfl, hrole, fun t => ?_,
    fun t => ?_, fun t => ?_, fun t => ?_, fun h => ?_, ?_, fun _ h => ?_, fun h => ?_⟩
  · have hnew : submitW t (.submitting within s.next false, .entering .isClosed) =
        if s.next = t then 1 else 0 := submitW_some rfl t
    have hold : submitW t (places s i) = 0 := submitW_none hsub t
    rw [hold, hnew]
    dsimp only [PoolState.turn]
    split_ifs <;> omega
  · rw [putW_not_done rfl, putW_not_done hbare.1]
    rfl
  · rw [heldW_none rfl, heldW_none hbare.2]
    rfl
  · have hsame : runW t (places s i) =
        runW t (.submitting within s.next false, .entering .isClosed) := runW_congr hruns t
    rw [hsame]
    rfl
  · cases h
  · rw [hd]
    cases within <;> simp [resume]
  · cases h
  · cases h

/-- A submit is over. -/
theorem pooled_resume {s s' : PoolState N κ} (hI : Pooled s) {i : Thread N κ}
    {within : Option Nat} {task : Nat} {pushing : Bool} {ret : Ret Nat}
    (hd : s.doing i = .submitting within task pushing) (hpc : s.tasks.pc i = .returned ret)
    (hret : retTask ret = none) (htasks : s'.tasks = s.tasks.at i .idle)
    (hdoing : s'.doing = Function.update s.doing i (resume within)) (hnext : s'.next = s.next)
    (hstarted : s'.started = s.started) (hfinished : s'.finished = s.finished)
    (hsub : ∀ t, s'.accepted.count t + s'.threw.count t =
      s.accepted.count t + s.threw.count t + if task = t then 1 else 0)
    (hput : ∀ t, s'.accepted.count t = s.accepted.count t + putW t (places s i)) : Pooled s' := by
  have hrole : Role i (resume within) := by
    have hrole := hI.role i
    rw [hd] at hrole
    cases i with
    | inl w =>
        cases within with
        | none => exact absurd rfl hrole
        | some t => trivial
    | inr k =>
        obtain rfl : within = none := hrole
        trivial
  have hruns : (places s i).1.runs = (resume within).runs := by
    rw [show (places s i).1 = _ from hd]
    cases within <;> rfl
  have hnone : (resume within).submits = none := by cases within <;> rfl
  have hheld : heldTask (places s i).2 = none := by
    rw [show (places s i).2 = _ from hpc]
    exact hret
  refine pooled_turn hI (i := i) ⟨htasks, hdoing, .inr ⟨ret, hpc⟩, .inl rfl, ?_, hrole,
    fun t => ?_, fun t => ?_, fun t => ?_, fun t => ?_, fun h => ?_, ?_, fun _ h => ?_, fun h => ?_⟩
  · cases within <;> rfl
  · rw [hnext, hsub, submitW_none hnone, submitW_some (congrArg Doing.submits hd)]
    omega
  · have hnew : putW t (resume within, .idle) = 0 := putW_not_done rfl t
    rw [hput, hnew]
    rfl
  · rw [hstarted, heldW_none rfl, heldW_none hheld]
  · have hsame : runW t (places s i) = runW t (resume within, .idle) := runW_congr hruns t
    rw [hstarted, hfinished, hsame]
  · cases within <;> cases h
  · rw [hd]
    exact fun h => nomatch h
  · cases within <;> cases h
  · cases within <;> cases h

theorem pushes_of_submits {d : Doing} (h : d.submits = none) : d.pushes = none := by
  cases d with
  | submitting => cases h
  | free | looping | popping | running | exited | closing | joining | shutDown => rfl

/-- A worker goes on, with the tasks it starts and finishes. -/
theorem pooled_worker {s s' : PoolState N κ} (hI : Pooled s) {w : Fin N} {d : Doing} {p : Pc Nat}
    (htasks : s'.tasks = s.tasks.at (.inl w) p)
    (hdoing : s'.doing = Function.update s.doing (.inl w) d)
    (hout : s.tasks.pc (.inl w) = .idle ∨ ∃ ret, s.tasks.pc (.inl w) = .returned ret)
    (hp : p = .idle ∨ ∃ op, p = .entering op) (hlink : Linked d p)
    (hrole : Role (.inl w : Thread N κ) d) (hnext : s'.next = s.next)
    (haccepted : s'.accepted = s.accepted) (hthrew : s'.threw = s.threw)
    (hsub : d.submits = none) (hsub' : (s.doing (.inl w)).submits = none)
    (hpops : ∀ t, s'.started.count t = s.started.count t + heldW t (places s (.inl w)))
    (hruns : ∀ t, s'.started.count t + s.finished.count t + runW t (places s (.inl w)) =
      s.started.count t + s'.finished.count t + runW t (d, p))
    (hover : d = .exited → s.tasks.closed = true ∧ s.tasks.queue = [])
    (hrunning : s.doing (.inl w) ≠ .exited) : Pooled s' := by
  have hheld : heldTask p = none := by
    rcases hp with rfl | ⟨op, rfl⟩ <;> rfl
  refine pooled_turn hI (i := .inl w) ⟨htasks, hdoing, hout, hp, hlink, hrole, fun t => ?_,
    fun t => ?_, fun t => ?_, hruns, hover, hrunning, fun j h => ?_, fun h => ?_⟩
  · rw [haccepted, hthrew, hnext, submitW_none hsub, submitW_none hsub']
  · rw [haccepted, putW_none (pushes_of_submits hsub), putW_none (pushes_of_submits hsub')]
  · have hnew : heldW t (d, p) = 0 := heldW_none hheld t
    rw [hpops, hnew]
    rfl
  · rw [h] at hrole
    exact hrole.elim
  · rw [h] at hrole
    exact hrole.elim

/-- A thread that is no worker goes on with its `shutdown`. -/
theorem pooled_client {s s' : PoolState N κ} (hI : Pooled s) {k : κ} {d : Doing} {p : Pc Nat}
    (htasks : s'.tasks = s.tasks.at (.inr k) p)
    (hdoing : s'.doing = Function.update s.doing (.inr k) d)
    (hout : s.tasks.pc (.inr k) = .idle ∨ s.tasks.pc (.inr k) = .returned .void)
    (hp : p = .idle ∨ ∃ op, p = .entering op) (hlink : Linked d p)
    (hrole : Role (.inr k : Thread N κ) d) (hnext : s'.next = s.next)
    (hlogs : s'.accepted = s.accepted ∧ s'.threw = s.threw ∧ s'.started = s.started ∧
      s'.finished = s.finished)
    (hsub : d.submits = none) (hsub' : (s.doing (.inr k)).submits = none)
    (hjoined : ∀ j, d = .joining j → ∀ w : Fin N, w.val < j → s.doing (.inl w) = .exited)
    (hshut : d = .shutDown → ∀ w : Fin N, s.doing (.inl w) = .exited) : Pooled s' := by
  obtain ⟨haccepted, hthrew, hstarted, hfinished⟩ := hlogs
  have hheld : heldTask p = none := by
    rcases hp with rfl | ⟨op, rfl⟩ <;> rfl
  have hheld' : heldTask (s.tasks.pc (.inr k)) = none := by
    rcases hout with hout | hout <;> rw [hout] <;> rfl
  have hidle : ∀ {e : Doing}, Role (.inr k : Thread N κ) e → e.submits = none → e.runs = none := by
    intro e he hs
    cases e with
    | submitting => cases hs
    | running => exact he.elim
    | free | looping | popping | exited | closing | joining | shutDown => rfl
  refine pooled_turn hI (i := .inr k) ⟨htasks, hdoing, hout.imp_right fun h => ⟨_, h⟩, hp, hlink,
    hrole, fun t => ?_, fun t => ?_, fun t => ?_, fun t => ?_, fun h => ?_, fun h => ?_, hjoined,
    hshut⟩
  · rw [haccepted, hthrew, hnext, submitW_none hsub, submitW_none hsub']
  · rw [haccepted, putW_none (pushes_of_submits hsub), putW_none (pushes_of_submits hsub')]
  · rw [hstarted, heldW_none hheld, heldW_none hheld']
  · have hnew : runW t (d, p) = 0 := runW_none (hidle hrole hsub) t
    have hold : runW t (places s (.inr k)) = 0 := runW_none (hidle (hI.role (.inr k)) hsub') t
    rw [hstarted, hfinished, hnew, hold]
  · rw [h] at hrole
    exact hrole.elim
  · have hrole' := hI.role (.inr k)
    rw [h] at hrole'
    exact hrole'.elim

/-- A step inside a call of the queue. -/
theorem pooled_queueStep {s s' : PoolState N κ} (hI : Pooled s) {a : Act (Thread N κ) Nat}
    (h : step s (.queue a) = some s') : Pooled s' := by
  rw [step] at h
  split at h
  · cases h
  · next hcall =>
      split at h
      · cases h
      · next q hq =>
          cases h
          obtain ⟨i, he⟩ := effect_of_step (fun i op ha => hcall (by rw [ha]; rfl)) hq
          exact pooled_queue hI he (sound_step hI.sound hq)

/-- `submit` is called, from outside or by a task. -/
theorem pooled_called {s s' : PoolState N κ} (hI : Pooled s) {i : Thread N κ}
    (h : step s (.submit i) = some s') : Pooled s' := by
  rw [step] at h
  have hrole := hI.role i
  split at h
  · next hd =>
      cases h
      rw [hd] at hrole
      refine pooled_submit hI (show s.doing i = resume none from hd) ?_
      cases i with
      | inl w => exact hrole.elim
      | inr k => rfl
  · next task hd =>
      cases h
      rw [hd] at hrole
      refine pooled_submit hI (show s.doing i = resume (some task) from hd) ?_
      cases i with
      | inl w => exact Option.some_ne_none task
      | inr k => exact hrole.elim
  · cases h

/-- The queue was open, `push` is next. -/
theorem pooled_push {s : PoolState N κ} (hI : Pooled s) {i : Thread N κ} {within : Option Nat}
    {task : Nat} (hd : s.doing i = .submitting within task false)
    (hpc : s.tasks.pc i = .returned (.bool false)) :
    Pooled (s.turn i (.submitting within task true) (.entering (.push task))) := by
  have hrole := hI.role i
  rw [hd] at hrole
  have hold : (places s i).1 = .submitting within task false := hd
  refine pooled_turn hI (i := i) ⟨rfl, rfl, .inr ⟨_, hpc⟩, .inr ⟨_, rfl⟩, rfl, ?_,
    fun t => ?_, fun t => ?_, fun t => ?_, fun t => ?_, fun h => ?_, ?_, fun _ h => ?_,
    fun h => ?_⟩
  · cases i with
    | inl w => exact hrole
    | inr k => exact hrole
  · rw [submitW_some (congrArg Doing.submits hold), submitW_some rfl]
    rfl
  · rw [putW_none (congrArg Doing.pushes hold), putW_not_done rfl]
    rfl
  · rw [heldW_none rfl, heldW_none (congrArg heldTask hpc)]
    rfl
  · have hsame : runW t (places s i) =
        runW t (.submitting within task true, .entering (.push task)) :=
      runW_congr (show (places s i).1.runs = within from congrArg Doing.runs hold) t
    rw [hsame]
    rfl
  · cases h
  · rw [hd]
    exact fun h => nomatch h
  · cases h
  · cases h

/-- `is_closed` has returned. -/
theorem pooled_checked {s s' : PoolState N κ} (hI : Pooled s) {i : Thread N κ}
    (h : step s (.checked i) = some s') : Pooled s' := by
  rw [step] at h
  split at h
  · next within task hd hpc =>
      cases h
      refine pooled_resume hI hd hpc rfl rfl rfl rfl rfl rfl (fun t => ?_) fun t => ?_
      · rw [count_snoc]
        exact (Nat.add_assoc _ _ _).symm
      · rw [putW_none (congrArg Doing.pushes hd)]
        rfl
  · next within task hd hpc =>
      cases h
      exact pooled_push hI hd hpc
  · cases h

/-- `push` has returned or thrown. -/
theorem pooled_submitted {s s' : PoolState N κ} (hI : Pooled s) {i : Thread N κ}
    (h : step s (.submitted i) = some s') : Pooled s' := by
  rw [step] at h
  split at h
  · next within task hd hpc =>
      cases h
      have hput : ∀ t, putW t (places s i) = if task = t then 1 else 0 :=
        putW_done (congrArg Doing.pushes hd) (by rw [show (places s i).2 = _ from hpc]; rfl)
      refine pooled_resume hI hd hpc rfl rfl rfl rfl rfl rfl (fun t => ?_) fun t => ?_
      · rw [count_snoc]
        dsimp only [PoolState.turn]
        omega
      · rw [count_snoc, hput]
  · next within task hd hpc =>
      cases h
      refine pooled_resume hI hd hpc rfl rfl rfl rfl rfl rfl (fun t => ?_) fun t => ?_
      · rw [count_snoc]
        exact (Nat.add_assoc _ _ _).symm
      · rw [putW_not_done (by rw [show (places s i).2 = _ from hpc]; rfl)]
        rfl
  · cases h

/-- A worker calls `pop`. -/
theorem pooled_pop {s s' : PoolState N κ} (hI : Pooled s) {w : Fin N}
    (h : step s (.pop w) = some s') : Pooled s' := by
  rw [step] at h
  split at h
  · next hd =>
      cases h
      have hpc := idle_of_linked (hI.linked (.inl w)) (by rw [hd]; rfl)
      refine pooled_worker hI rfl rfl (.inl hpc) (.inr ⟨_, rfl⟩) rfl trivial rfl rfl rfl rfl
        (by rw [hd]; rfl) (fun t => ?_) (fun t => ?_) (fun h => ?_) ?_
      · rw [heldW_none (congrArg heldTask hpc)]
        rfl
      · rw [runW_none (congrArg Doing.runs hd), runW_none rfl]
        rfl
      · cases h
      · rw [hd]
        exact fun h => nomatch h
  · cases h

/-- `pop` has returned: the worker starts a task, or stops. -/
theorem pooled_popped {s s' : PoolState N κ} (hI : Pooled s) {w : Fin N}
    (h : step s (.popped w) = some s') : Pooled s' := by
  rw [step] at h
  split at h
  · next task hd hpc =>
      cases h
      refine pooled_worker hI rfl rfl (.inr ⟨_, hpc⟩) (.inl rfl) rfl trivial rfl rfl rfl rfl
        (by rw [hd]; rfl) (fun t => ?_) (fun t => ?_) (fun h => ?_) ?_
      · rw [heldW_some (congrArg heldTask hpc), count_snoc]
      · have hnew : runW t (.running task, .idle) = if task = t then 1 else 0 :=
          runW_some rfl t
        rw [runW_none (congrArg Doing.runs hd), hnew, count_snoc]
        dsimp only [PoolState.turn]
        omega
      · cases h
      · rw [hd]
        exact fun h => nomatch h
  · next hd hpc =>
      cases h
      refine pooled_worker hI rfl rfl (.inr ⟨_, hpc⟩) (.inl rfl) rfl trivial rfl rfl rfl rfl
        (by rw [hd]; rfl) (fun t => ?_) (fun t => ?_) (fun _ => ?_) ?_
      · rw [heldW_none (congrArg heldTask hpc)]
        rfl
      · rw [runW_none (congrArg Doing.runs hd), runW_none rfl]
        rfl
      · exact hI.ended (.inl w) (.inr ⟨hd, congrArg gotNothing hpc⟩)
      · rw [hd]
        exact fun h => nomatch h
  · cases h

/-- A task is over. -/
theorem pooled_finish {s s' : PoolState N κ} (hI : Pooled s) {w : Fin N} {exception : Bool}
    (h : step s (.finish w exception) = some s') : Pooled s' := by
  rw [step] at h
  split at h
  · next task hd =>
      cases h
      have hpc := idle_of_linked (hI.linked (.inl w)) (by rw [hd]; rfl)
      refine pooled_worker hI rfl rfl (.inl hpc) (.inl rfl) rfl trivial rfl rfl rfl rfl
        (by rw [hd]; rfl) (fun t => ?_) (fun t => ?_) (fun h => ?_) ?_
      · rw [heldW_none (congrArg heldTask hpc)]
        rfl
      · have hnew : runW t (.looping, .idle) = 0 := runW_none rfl t
        rw [runW_some (congrArg Doing.runs hd), hnew, count_snoc]
        dsimp only [PoolState.turn]
        omega
      · cases h
      · rw [hd]
        exact fun h => nomatch h
  · cases h

/-- `shutdown` is called. -/
theorem pooled_shutdown {s s' : PoolState N κ} (hI : Pooled s) {k : κ}
    (h : step s (.shutdown k) = some s') : Pooled s' := by
  rw [step] at h
  split at h
  · next hd =>
      split at h
      · cases h
        exact hI
      · cases h
        have hpc := idle_of_linked (hI.linked (.inr k)) (by rw [hd]; rfl)
        exact pooled_client hI rfl rfl (.inl hpc) (.inr ⟨_, rfl⟩) rfl trivial rfl
          ⟨rfl, rfl, rfl, rfl⟩ rfl (by rw [hd]; rfl) (fun _ h => nomatch h) fun h => nomatch h
  · cases h

/-- `close` has returned: no worker is joined yet. -/
theorem pooled_closed {s s' : PoolState N κ} (hI : Pooled s) {k : κ}
    (h : step s (.closed k) = some s') : Pooled s' := by
  rw [step] at h
  split at h
  · next hd hpc =>
      cases h
      refine pooled_client hI rfl rfl (.inr hpc) (.inl rfl) rfl trivial rfl
        ⟨rfl, rfl, rfl, rfl⟩ rfl (by rw [hd]; rfl) (fun j hj w hw => ?_) fun h => nomatch h
      obtain rfl := Doing.joining.inj hj
      exact absurd hw (Nat.not_lt_zero _)
  · cases h

/-- The next worker is joined, or all are. -/
theorem pooled_join {s s' : PoolState N κ} (hI : Pooled s) {k : κ}
    (h : step s (.join k) = some s') : Pooled s' := by
  rw [step] at h
  split at h
  · next i hd =>
      have hpc := idle_of_linked (hI.linked (.inr k)) (by rw [hd]; rfl)
      have hjoined := hI.joined k i hd
      split at h
      · next hi =>
          split at h
          · next hexit =>
              cases h
              refine pooled_client hI rfl rfl (.inl hpc) (.inl rfl) rfl trivial rfl
                ⟨rfl, rfl, rfl, rfl⟩ rfl (by rw [hd]; rfl) (fun j hj w hw => ?_)
                fun h => nomatch h
              obtain rfl := Doing.joining.inj hj
              rcases Nat.lt_succ_iff_lt_or_eq.mp hw with hw | hw
              · exact hjoined w hw
              · rw [show w = ⟨i, hi⟩ from Fin.ext hw]
                exact hexit
          · cases h
      · next hi =>
          cases h
          refine pooled_client hI rfl rfl (.inl hpc) (.inl rfl) rfl trivial rfl
            ⟨rfl, rfl, rfl, rfl⟩ rfl (by rw [hd]; rfl) (fun _ h => nomatch h) fun _ w => ?_
          exact hjoined w (Nat.lt_of_lt_of_le w.isLt (Nat.le_of_not_lt hi))
  · cases h

theorem pooled_step {s s' : PoolState N κ} (hI : Pooled s) {a : PoolAct N κ}
    (h : step s a = some s') : Pooled s' := by
  cases a with
  | queue => exact pooled_queueStep hI h
  | submit => exact pooled_called hI h
  | checked => exact pooled_checked hI h
  | submitted => exact pooled_submitted hI h
  | pop => exact pooled_pop hI h
  | popped => exact pooled_popped hI h
  | finish => exact pooled_finish hI h
  | shutdown => exact pooled_shutdown hI h
  | closed => exact pooled_closed hI h
  | join => exact pooled_join hI h

/-! ## Runs -/

theorem pooled_of_run {as : List (PoolAct N κ)} {s : PoolState N κ}
    (h : Lts.run step init as = some s) : Pooled s :=
  Lts.run_stable (fun _ _ _ hI h => pooled_step hI h) pooled_init h

/-- A task is pushed at most once, and only if its submit does not throw. -/
theorem pushLog_count_le {s : PoolState N κ} (hI : Pooled s) (t : Nat) :
    s.tasks.pushLog.count t + s.threw.count t ≤ 1 := by
  have hle : total (putW t) (places s) ≤ total (submitW t) (places s) := by
    refine Finset.sum_le_sum fun i _ => ?_
    unfold putW submitW
    cases hd : (places s i).1 with
    | submitting within task pushing =>
        cases pushing with
        | false => exact Nat.zero_le _
        | true =>
            simp only [Doing.pushes, Doing.submits, Option.some.injEq]
            split_ifs with h₁ h₂
            · exact Nat.le_refl 1
            · exact absurd h₁.1 h₂
            · exact Nat.zero_le _
            · exact Nat.le_refl 0
    | free | looping | popping | running | exited | closing | joining | shutDown =>
        exact Nat.zero_le _
  have h₁ := hI.submits t
  have h₂ := hI.pushes t
  split_ifs at h₁ <;> omega

theorem started_count_le {s : PoolState N κ} (hI : Pooled s) (t : Nat) :
    s.started.count t ≤ s.tasks.pushLog.count t := by
  have h₁ := hI.pops t
  have h₂ := congrArg (List.count t) hI.sound.fifo
  rw [List.count_append] at h₂
  omega

theorem pushLog_of_accepted {s : PoolState N κ} (hI : Pooled s) {t : Nat}
    (ht : t ∈ s.accepted) : s.tasks.pushLog.count t = 1 := by
  have h₁ := hI.pushes t
  have h₂ := pushLog_count_le hI t
  have h₃ := List.count_pos_iff.mpr ht
  omega

/-- Nothing is queued, held or running: everything that was pushed is finished. -/
theorem finished_of_drained {s : PoolState N κ} (hI : Pooled s) (hq : s.tasks.queue = [])
    (hheld : ∀ i, heldTask (s.tasks.pc i) = none) (hruns : ∀ i, (s.doing i).runs = none)
    (t : Nat) : s.finished.count t = s.tasks.pushLog.count t := by
  have h₁ := hI.pops t
  have h₂ := hI.runs t
  have h₃ : total (heldW t) (places s) = 0 := total_eq_zero fun i => heldW_none (hheld i) t
  have h₄ : total (runW t) (places s) = 0 := total_eq_zero fun i => runW_none (hruns i) t
  have h₅ := hI.sound.fifo
  rw [hq, List.append_nil] at h₅
  rw [h₅]
  omega

/-- Once the queue is closed, nothing is pushed. -/
theorem closed_step {s s' : PoolState N κ} {a : PoolAct N κ} (h : step s a = some s')
    (hclosed : s.tasks.closed = true) :
    s'.tasks.closed = true ∧ s'.tasks.pushLog = s.tasks.pushLog := by
  cases a with
  | queue a =>
      rw [step] at h
      split at h
      · cases h
      · split at h
        · cases h
        · next q hq =>
            cases h
            exact BlockingQueue.closed_step hq hclosed
  | submit | checked | submitted | pop | popped | finish | shutdown | closed | join =>
      rw [step] at h
      repeat' split at h
      all_goals first | (cases h; exact ⟨hclosed, rfl⟩) | cases h

theorem heldTask_of_linked {d : Doing} {p : Pc Nat} (h : Linked d p) (hd : d ≠ .popping) :
    heldTask p = none := by
  unfold Linked at h
  split at h
  · rw [h]
    rfl
  · next op hc =>
      have hop : op ≠ .pop := by
        rintro rfl
        cases d with
        | submitting within task pushing => cases pushing <;> cases hc
        | popping => exact hd rfl
        | free | looping | running | exited | closing | joining | shutDown => cases hc
      cases p with
      | dequeued task => exact absurd h hop
      | leaving ret =>
          cases op with
          | pop => exact absurd rfl hop
          | push =>
              rw [show ret = .threw from h]
              rfl
          | isClosed =>
              obtain ⟨b, rfl⟩ := h
              rfl
          | close | pushFor | tryPush | popFor | tryPop => exact h.elim
      | returned ret =>
          cases op with
          | pop => exact absurd rfl hop
          | push =>
              rcases h with rfl | rfl
              · rfl
              · rfl
          | isClosed =>
              obtain ⟨b, rfl⟩ := h
              rfl
          | close =>
              rw [show ret = .void from h]
              rfl
          | pushFor | tryPush | popFor | tryPop => exact h.elim
      | idle | entering | inside | asleep | woken | back | pushed | notifying | closing
      | wakingEmpty | wakingFull => rfl

/-- No thread of the pool, and no thread in a call of it, can go on by itself. -/
def PoolAct.internal : PoolAct N κ → Bool
  | .queue a => a.internal
  | .submit _ | .shutdown _ => false
  | .checked _ | .submitted _ | .pop _ | .popped _ | .finish _ _ | .closed _ | .join _ => true

def Stuck (s : PoolState N κ) : Prop := ∀ a : PoolAct N κ, a.internal = true → step s a = none

theorem stuck_tasks {s : PoolState N κ} (h : Stuck s) : BlockingQueue.Stuck 0 s.tasks := by
  intro a ha
  have hs := h (.queue a) ha
  have hcall : isCall a = false := by
    cases a <;> first | rfl | cases ha
  rw [step, hcall, if_neg Bool.false_ne_true] at hs
  split at hs
  · next hq => exact hq
  · cases hs

theorem not_stuck {s s' : PoolState N κ} (hstuck : Stuck s) {a : PoolAct N κ}
    (ha : a.internal = true) (h : step s a = some s') : False := by
  rw [hstuck a ha] at h
  cases h

/-- Where a thread in a call is when nobody can go on. -/
theorem rests_inCall {s : PoolState N κ} (hI : Pooled s) (hstuck : Stuck s) {i : Thread N κ}
    {op : Op Nat} (hc : (s.doing i).call = some op) :
    (∃ ret, s.tasks.pc i = .returned ret ∧ InCall op (.returned ret)) ∨
      s.tasks.pc i = .asleep op ∧ ∃ c, op.cond = some c ∧ ¬ Available 0 s.tasks c := by
  have hrests := rests_of_stuck hI.sound (stuck_tasks hstuck) i
  have hlink := hI.linked i
  unfold Linked at hlink
  rw [hc] at hlink
  dsimp only at hlink
  cases hpc : s.tasks.pc i with
  | returned ret =>
      rw [hpc] at hlink
      exact .inl ⟨ret, rfl, hlink⟩
  | asleep o =>
      rw [hpc] at hlink hrests
      obtain ⟨rfl, hcond⟩ := hlink
      obtain ⟨c, hcc⟩ := Option.ne_none_iff_exists'.mp hcond
      exact .inr ⟨rfl, c, hcc, hrests c hcc⟩
  | idle =>
      rw [hpc] at hlink
      exact hlink.elim
  | entering | inside | woken | back | pushed | notifying | dequeued | closing | wakingEmpty
  | wakingFull | leaving =>
      rw [hpc] at hrests
      exact hrests.elim

/-- A thread that submits can always go on. -/
theorem submits_of_stuck {s : PoolState N κ} (hI : Pooled s) (hstuck : Stuck s)
    (i : Thread N κ) : (s.doing i).submits = none := by
  cases hd : s.doing i with
  | submitting within task pushing =>
      cases pushing with
      | false =>
          rcases rests_inCall hI hstuck (i := i) (by rw [hd]; rfl) with
            ⟨ret, hpc, b, rfl⟩ | ⟨-, c, hc, -⟩
          · cases b with
            | true => exact (not_stuck hstuck (a := .checked i) rfl (by rw [step, hd, hpc])).elim
            | false => exact (not_stuck hstuck (a := .checked i) rfl (by rw [step, hd, hpc])).elim
          · cases hc
      | true =>
          rcases rests_inCall hI hstuck (i := i) (by rw [hd]; rfl) with
            ⟨ret, hpc, hret⟩ | ⟨-, c, hc, hav⟩
          · rcases hret with rfl | rfl
            · exact (not_stuck hstuck (a := .submitted i) rfl (by rw [step, hd, hpc])).elim
            · exact (not_stuck hstuck (a := .submitted i) rfl (by rw [step, hd, hpc])).elim
          · -- the queue has no bound, so there is room
            obtain rfl := Option.some.inj hc
            exact absurd (.inl (isFull_zero _)) hav
  | free | looping | popping | running | exited | closing | joining | shutDown => rfl

/-- A worker has stopped or waits for a task that is not there. -/
theorem worker_of_stuck {s : PoolState N κ} (hI : Pooled s) (hstuck : Stuck s) (w : Fin N) :
    s.tasks.queue = [] ∧ heldTask (s.tasks.pc (.inl w)) = none ∧
      (s.doing (.inl w)).runs = none := by
  have hsub := submits_of_stuck hI hstuck (.inl w)
  have hrole := hI.role (.inl w)
  cases hd : s.doing (.inl w) with
  | submitting =>
      rw [hd] at hsub
      cases hsub
  | looping =>
      exact (not_stuck hstuck (a := .pop w) rfl (by rw [step, hd])).elim
  | running task =>
      exact (not_stuck hstuck (a := .finish w false) rfl (by rw [step, hd])).elim
  | exited =>
      refine ⟨(hI.ended (.inl w) (.inl hd)).2, ?_, rfl⟩
      exact heldTask_of_linked (hI.linked _) (by rw [hd]; exact fun h => nomatch h)
  | popping =>
      rcases rests_inCall hI hstuck (i := .inl w) (by rw [hd]; rfl) with
        ⟨ret, hpc, x, rfl⟩ | ⟨hpc, c, hc, hav⟩
      · cases x with
        | none => exact (not_stuck hstuck (a := .popped w) rfl (by rw [step, hd, hpc])).elim
        | some task => exact (not_stuck hstuck (a := .popped w) rfl (by rw [step, hd, hpc])).elim
      · obtain rfl := Option.some.inj hc
        refine ⟨?_, by rw [hpc]; rfl, rfl⟩
        by_contra hq
        exact hav (.inl hq)
  | free | closing | joining | shutDown =>
      rw [hd] at hrole
      exact hrole.elim

/-- A thread that is no worker holds and runs no task. -/
theorem client_idle {s : PoolState N κ} (hI : Pooled s) (k : κ) :
    heldTask (s.tasks.pc (.inr k)) = none ∧ (s.doing (.inr k)).runs = none := by
  have hrole := hI.role (.inr k)
  refine ⟨heldTask_of_linked (hI.linked _) ?_, ?_⟩
  · intro hd
    rw [hd] at hrole
    exact hrole
  · cases hd : s.doing (.inr k) with
    | submitting within task pushing =>
        rw [hd] at hrole
        exact hrole
    | running task =>
        rw [hd] at hrole
        exact hrole.elim
    | free | looping | popping | exited | closing | joining | shutDown => rfl

/-- What the pool does with the tasks in a state of a run. -/
structure ExactlyOnce (s : PoolState N κ) : Prop where
  /-- no task runs twice, and one whose submit threw never runs -/
  once : ∀ t, s.started.count t + s.threw.count t ≤ 1
  /-- a submit that returns has pushed its task, once, and has not thrown -/
  accepted : ∀ t ∈ s.accepted, s.tasks.pushLog.count t = 1 ∧ t ∉ s.threw
  /-- first in, first out -/
  order : s.tasks.popLog <+: s.tasks.pushLog
  /-- after a `shutdown` that closed the queue every task that was pushed is finished -/
  drained : ∀ k, s.doing (.inr k) = .shutDown →
    ∀ t, s.finished.count t = s.tasks.pushLog.count t
  /-- no accepted task is left behind: as long as it is not finished, a thread of the pool or one
      in a call of it can go on -/
  progress : Stuck s → ∀ t ∈ s.accepted, s.finished.count t = 1

/-- **Every accepted task runs exactly once**, for any number of workers and every interleaving
    of submits, worker steps and a shutdown; and nothing is accepted once the queue is closed. -/
theorem runs_exactly_once (hN : 0 < N) {as : List (PoolAct N κ)} {s : PoolState N κ}
    (h : Lts.run step init as = some s) :
    ExactlyOnce s ∧ (s.tasks.closed = true → ∀ (bs : List (PoolAct N κ)) s',
      Lts.run step s bs = some s' → s'.tasks.pushLog = s.tasks.pushLog ∧
        ∀ t ∈ s'.accepted, t ∈ s.tasks.pushLog) := by
  have hI := pooled_of_run h
  refine ⟨⟨fun t => ?_, fun t ht => ⟨pushLog_of_accepted hI ht, fun hth => ?_⟩, ?_, fun k hk t => ?_,
    fun hstuck t ht => ?_⟩, fun hclosed bs s' hrun => ?_⟩
  · have h₁ := pushLog_count_le hI t
    have h₂ := started_count_le hI t
    omega
  · have h₁ := pushLog_count_le hI t
    have h₂ := pushLog_of_accepted hI ht
    have h₃ := List.count_pos_iff.mpr hth
    omega
  · rw [hI.sound.fifo]
    exact List.prefix_append _ _
  · have hexit := hI.shut k hk
    refine finished_of_drained hI (hI.ended (.inl ⟨0, hN⟩) (.inl (hexit _))).2 (fun i => ?_)
      (fun i => ?_) t
    · cases i with
      | inl w =>
          exact heldTask_of_linked (hI.linked _) (by rw [hexit w]; exact fun h => nomatch h)
      | inr k => exact (client_idle hI k).1
    · cases i with
      | inl w => rw [hexit w]; rfl
      | inr k => exact (client_idle hI k).2
  · rw [finished_of_drained hI (worker_of_stuck hI hstuck ⟨0, hN⟩).1, pushLog_of_accepted hI ht]
    · intro i
      cases i with
      | inl w => exact (worker_of_stuck hI hstuck w).2.1
      | inr k => exact (client_idle hI k).1
    · intro i
      cases i with
      | inl w => exact (worker_of_stuck hI hstuck w).2.2
      | inr k => exact (client_idle hI k).2
  · have hlog : s'.tasks.closed = true ∧ s'.tasks.pushLog = s.tasks.pushLog :=
      Lts.run_stable (I := fun u => u.tasks.closed = true ∧ u.tasks.pushLog = s.tasks.pushLog)
        (fun u a u' hu hstep => by
          obtain ⟨hc, hl⟩ := closed_step hstep hu.1
          exact ⟨hc, hl.trans hu.2⟩) ⟨hclosed, rfl⟩ hrun
    refine ⟨hlog.2, fun t ht => ?_⟩
    have hI' : Pooled s' := Lts.run_stable (fun _ _ _ hI h => pooled_step hI h) hI hrun
    rw [← hlog.2]
    exact List.count_pos_iff.mp (by rw [pushLog_of_accepted hI' ht]; exact Nat.one_pos)

/-- One worker and one other thread: a submit, the task, which ends in an exception, and a
    shutdown that joins the worker. -/
def taskRun : List (PoolAct 1 (Fin 1)) :=
  [.submit (.inr 0), .queue (.lock (.inr 0)), .queue (.work (.inr 0)), .queue (.unlock (.inr 0)),
    .checked (.inr 0), .pop 0, .queue (.lock (.inl 0)), .queue (.work (.inl 0)),
    .queue (.lock (.inr 0)), .queue (.work (.inr 0)), .queue (.unlock (.inr 0)),
    .queue (.notifyOne (.inr 0) (some (.inl 0))), .submitted (.inr 0), .queue (.lock (.inl 0)),
    .queue (.work (.inl 0)), .queue (.notifyOne (.inl 0) none), .queue (.unlock (.inl 0)),
    .popped 0, .shutdown 0, .queue (.lock (.inr 0)), .queue (.work (.inr 0)), .finish 0 true,
    .queue (.unlock (.inr 0)), .pop 0, .queue (.notifyAll (.inr 0)), .queue (.notifyAll (.inr 0)),
    .closed 0, .queue (.lock (.inl 0)), .queue (.work (.inl 0)), .queue (.unlock (.inl 0)),
    .popped 0, .join 0, .join 0]

theorem runs_exactly_once_taskRun : ∃ s, Lts.run step init taskRun = some s ∧ ExactlyOnce s ∧
    s.accepted = [0] ∧ s.finished = [0] ∧ s.doing (.inr 0) = .shutDown :=
  ⟨_, rfl, (@runs_exactly_once 1 (Fin 1) _ _ Nat.one_pos taskRun _ rfl).1, rfl, rfl, rfl⟩

end

end RtspServer.ThreadPool
