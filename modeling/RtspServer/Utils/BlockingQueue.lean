/-
  Model of `BlockingQueue<T, Capacity>` with its mutex and its two condition variables, for any
  finite set `ι` of threads. Between two steps of the same thread any other thread may move:
  taking the mutex, the section under it, letting go of it, each `notify_one` and `notify_all`
  and each wake-up are steps of their own. `wait` gives the mutex back and goes to sleep in one
  step; a sleeping thread wakes when it is notified, spuriously, or, in a timed call, when the
  time is up, which may be at any moment. `notify_one` wakes one of the threads that sleep on
  the condition variable, any one, and none when none sleeps.

  `pushLog` and `popLog` are the values in the order in which they entered and left the queue; no
  step reads them.

  * `no_stranded_waiter`: the queue is never longer than its capacity, and a thread sleeps on
    although what it waits for is there only while another thread has a notification for it to
    give or has been woken and not yet looked.
  * `rests_of_stuck`: when no thread can go on by itself, every thread that sleeps does so
    because what it waits for is not there.
-/
import RtspServer.Lib.Lts
import RtspServer.Lib.Threads

namespace RtspServer.BlockingQueue

open Threads

variable {ι T : Type}

/-! ## The threads -/

/-- The member functions. -/
inductive Op (T : Type) where
  | push (value : T)
  | pushFor (value : T)
  | tryPush (value : T)
  | pop
  | popFor
  | tryPop
  | close
  | isClosed
  deriving DecidableEq

/-- What they return. -/
inductive Ret (T : Type) where
  | void
  | bool (b : Bool)
  | item (value : Option T)
  /-- `std::runtime_error` -/
  | threw
  deriving DecidableEq

/-- Where a thread is. -/
inductive Pc (T : Type) where
  | idle
  /-- the constructor of the `unique_lock` -/
  | entering (op : Op T)
  /-- it holds the mutex and has not waited -/
  | inside (op : Op T)
  /-- in `wait`, without the mutex -/
  | asleep (op : Op T)
  /-- awake, it has to get the mutex back; `timeout` is what `wait_until` will say -/
  | woken (op : Op T) (timeout : Bool)
  /-- back from `wait` with the mutex -/
  | back (op : Op T) (timeout : Bool)
  /-- `queue_.push_back` is done, `lk.unlock()` is next -/
  | pushed (ret : Ret T)
  /-- `not_empty_.notify_one()` is next -/
  | notifying (ret : Ret T)
  /-- `queue_.pop_front` is done, `not_full_.notify_one()` is next, under the mutex -/
  | dequeued (value : T)
  /-- `closed_` is set, under the mutex -/
  | closing
  /-- `not_empty_.notify_all()` is next -/
  | wakingEmpty
  /-- `not_full_.notify_all()` is next -/
  | wakingFull
  /-- the destructor of the lock is next -/
  | leaving (ret : Ret T)
  | returned (ret : Ret T)
  deriving DecidableEq

/-- The condition variables. -/
inductive Cond where
  | notEmpty
  | notFull
  deriving DecidableEq

/-- The condition variable that a call waits on. -/
def Op.cond : Op T → Option Cond
  | .push _ | .pushFor _ => some .notFull
  | .pop | .popFor => some .notEmpty
  | .tryPush _ | .tryPop | .close | .isClosed => none

/-- `wait_for` instead of `wait`. -/
def Op.timed : Op T → Bool
  | .pushFor _ | .popFor => true
  | .push _ | .tryPush _ | .pop | .tryPop | .close | .isClosed => false

structure QueueState (ι T : Type) where
  queue : List T
  closed : Bool
  mutex : Option ι
  pc : ι → Pc T
  pushLog : List T
  popLog : List T

def init : QueueState ι T :=
  { queue := [], closed := false, mutex := none, pc := fun _ => .idle, pushLog := [], popLog := [] }

/-- `is_full`; a capacity of 0 is no bound. -/
def isFull (capacity : Nat) (queue : List T) : Bool := 0 < capacity ∧ capacity ≤ queue.length

/-! ## The sections under the mutex -/

/-- What a section leaves behind: the queue, `closed_` and where the thread is then. -/
structure Section (T : Type) where
  queue : List T
  closed : Bool
  pc : Pc T

/-- From `push_back` on. -/
def pushBack (queue : List T) (closed : Bool) (value : T) (ret : Ret T) : Section T :=
  ⟨queue ++ [value], closed, .pushed ret⟩

/-- `dequeue`, or else what the caller does when the queue is empty. -/
def dequeue (queue : List T) (closed : Bool) (otherwise : Pc T) : Section T :=
  match queue with
  | value :: rest => ⟨rest, closed, .dequeued value⟩
  | [] => ⟨[], closed, otherwise⟩

/-- A section of a call, from the lock or from the end of a wait. The check of `closed_` before
    the wait of `push` and `push_for` comes to the same as the one after it. -/
def attempt (capacity : Nat) (queue : List T) (closed timeout : Bool) : Op T → Section T
  | .push value =>
      if closed then ⟨queue, closed, .leaving .threw⟩
      else if isFull capacity queue then ⟨queue, closed, .asleep (.push value)⟩
      else pushBack queue closed value .void
  | .pushFor value =>
      if closed then ⟨queue, closed, .leaving (.bool false)⟩
      else if isFull capacity queue then
        -- `ok` is false when the time is up
        if timeout then ⟨queue, closed, .leaving (.bool false)⟩
        else ⟨queue, closed, .asleep (.pushFor value)⟩
      else pushBack queue closed value (.bool true)
  | .tryPush value =>
      if closed || isFull capacity queue then ⟨queue, closed, .leaving (.bool false)⟩
      else pushBack queue closed value (.bool true)
  | .pop => dequeue queue closed (if closed then .leaving (.item none) else .asleep .pop)
  | .popFor =>
      dequeue queue closed
        (if closed || timeout then .leaving (.item none) else .asleep .popFor)
  | .tryPop => dequeue queue closed (.leaving (.item none))
  | .close => ⟨queue, true, .closing⟩
  | .isClosed => ⟨queue, closed, .leaving (.bool closed)⟩

/-- The value of a push. -/
def Op.value : Op T → List T
  | .push value | .pushFor value | .tryPush value => [value]
  | .pop | .popFor | .tryPop | .close | .isClosed => []

/-- The value that a section put into the queue. -/
def put (op : Op T) : Pc T → List T
  | .pushed _ => op.value
  | _ => []

/-- The value that a section took out of it. -/
def taken : Pc T → List T
  | .dequeued value => [value]
  | _ => []

/-! ## The steps -/

/-- The thread sleeps on the condition variable. -/
def sleeps (c : Cond) : Pc T → Bool
  | .asleep op => op.cond = some c
  | _ => false

/-- A sleeping thread is notified. -/
def notified : Pc T → Pc T
  | .asleep op => .woken op false
  | p => p

inductive Act (ι T : Type) where
  | call (i : ι) (op : Op T)
  /-- the mutex is taken -/
  | lock (i : ι)
  /-- a section under the mutex -/
  | work (i : ι)
  /-- the mutex is given back -/
  | unlock (i : ι)
  /-- `notify_one`, with the thread that it wakes -/
  | notifyOne (i : ι) (sleeper : Option ι)
  | notifyAll (i : ι)
  /-- a spurious wake-up -/
  | wake (i : ι)
  /-- the time of a timed wait is up -/
  | expire (i : ι)

section

variable [DecidableEq ι]

def QueueState.at (s : QueueState ι T) (i : ι) (p : Pc T) : QueueState ι T :=
  { s with pc := Function.update s.pc i p }

/-- A section of thread `i`; a thread that goes to sleep gives the mutex back. -/
def QueueState.perform (s : QueueState ι T) (capacity : Nat) (i : ι) (op : Op T)
    (timeout : Bool) : QueueState ι T :=
  let r := attempt capacity s.queue s.closed timeout op
  { queue := r.queue, closed := r.closed
    mutex := match r.pc with
      | .asleep _ => none
      | _ => s.mutex
    pc := Function.update s.pc i r.pc
    pushLog := s.pushLog ++ put op r.pc, popLog := s.popLog ++ taken r.pc }

variable [Fintype ι]

/-- `notify_one`. -/
def QueueState.notify (s : QueueState ι T) (c : Cond) : Option ι → Option (QueueState ι T)
  | none => if ∀ j, sleeps c (s.pc j) = false then some s else none
  | some j => if sleeps c (s.pc j) then some (s.at j (notified (s.pc j))) else none

/-- `notify_all`. -/
def QueueState.notifyEach (s : QueueState ι T) (c : Cond) : QueueState ι T :=
  { s with pc := fun j => if sleeps c (s.pc j) then notified (s.pc j) else s.pc j }

def step (capacity : Nat) (s : QueueState ι T) : Act ι T → Option (QueueState ι T)
  | .call i op =>
      match s.pc i with
      | .idle | .returned _ => some (s.at i (.entering op))
      | _ => none
  | .lock i =>
      match s.mutex, s.pc i with
      | none, .entering op => some { s.at i (.inside op) with mutex := some i }
      | none, .woken op timeout => some { s.at i (.back op timeout) with mutex := some i }
      | _, _ => none
  | .work i =>
      match s.pc i with
      | .inside op => some (s.perform capacity i op false)
      | .back op timeout => some (s.perform capacity i op timeout)
      | _ => none
  | .unlock i =>
      match s.pc i with
      | .pushed ret => some { s.at i (.notifying ret) with mutex := none }
      | .closing => some { s.at i .wakingEmpty with mutex := none }
      | .leaving ret => some { s.at i (.returned ret) with mutex := none }
      | _ => none
  | .notifyOne i sleeper =>
      match s.pc i with
      | .notifying ret => (s.at i (.returned ret)).notify .notEmpty sleeper
      | .dequeued value => (s.at i (.leaving (.item (some value)))).notify .notFull sleeper
      | _ => none
  | .notifyAll i =>
      match s.pc i with
      | .wakingEmpty => some ((s.at i .wakingFull).notifyEach .notEmpty)
      | .wakingFull => some ((s.at i (.returned .void)).notifyEach .notFull)
      | _ => none
  | .wake i =>
      match s.pc i with
      | .asleep op => some (s.at i (.woken op false))
      | _ => none
  | .expire i =>
      match s.pc i with
      | .asleep op | .woken op _ => if op.timed then some (s.at i (.woken op true)) else none
      | _ => none

end

/-! ## Who is going to look -/

/-- What a thread that waits on the condition variable waits for: elements or room. -/
def supply (capacity : Nat) (queue : List T) : Cond → Nat
  | .notEmpty => queue.length
  | .notFull => capacity - queue.length

/-- The thread has a notification to give, or is awake and going to look. -/
def due (c : Cond) : Pc T → Nat
  | .woken op _ | .back op _ => if op.cond = some c then 1 else 0
  | .pushed _ | .notifying _ => if c = .notEmpty then 1 else 0
  | .dequeued _ => if c = .notFull then 1 else 0
  | .idle | .entering _ | .inside _ | .asleep _ | .closing | .wakingEmpty | .wakingFull
  | .leaving _ | .returned _ => 0

theorem due_pushed (ret : Ret T) : due .notEmpty (.pushed ret) = 1 := rfl

theorem due_dequeued (value : T) : due .notFull (.dequeued value) = 1 := rfl

/-- A `notify_all` of the thread is to come. -/
def wakes (c : Cond) : Pc T → Bool
  | .closing | .wakingEmpty => true
  | .wakingFull => c = .notFull
  | _ => false

/-- The thread has the mutex. -/
def holds : Pc T → Bool
  | .inside _ | .back _ _ | .pushed _ | .dequeued _ | .closing | .leaving _ => true
  | .idle | .entering _ | .asleep _ | .woken _ _ | .notifying _ | .wakingEmpty | .wakingFull
  | .returned _ => false

/-- As long as the queue is open, nobody sleeps while more is there than others will look at. -/
def Stocked [Fintype ι] (capacity : Nat) (queue : List T) (closed : Bool) (pc : ι → Pc T)
    (c : Cond) : Prop :=
  closed = false → (∃ i, sleeps c (pc i) = true) → supply capacity queue c ≤ total (due c) pc

/-- Once it is closed, nobody sleeps unless a `notify_all` is to come. -/
def Alarmed (closed : Bool) (pc : ι → Pc T) (c : Cond) : Prop :=
  closed = true → (∃ i, sleeps c (pc i) = true) → ∃ j, wakes c (pc j) = true

/-- What holds in every state. -/
structure Sound [Fintype ι] (capacity : Nat) (s : QueueState ι T) : Prop where
  bound : 0 < capacity → s.queue.length ≤ capacity
  fifo : s.pushLog = s.popLog ++ s.queue
  /-- the mutex is held by the thread that is in its section -/
  mutex : ∀ i, s.mutex = some i ↔ holds (s.pc i) = true
  shut : ∀ i, wakes .notFull (s.pc i) = true → s.closed = true
  bounded : ∀ i, sleeps .notFull (s.pc i) = true → 0 < capacity
  stocked : ∀ c, Stocked capacity s.queue s.closed s.pc c
  alarmed : ∀ c, Alarmed s.closed s.pc c

theorem sound_init [Fintype ι] (capacity : Nat) : Sound capacity (init : QueueState ι T) := by
  refine ⟨fun _ => Nat.zero_le _, rfl, fun i => ?_, fun i h => ?_, fun i h => ?_,
    fun c _ h => ?_, fun c h _ => ?_⟩
  · constructor
    · intro h
      cases h
    · intro h
      cases h
  · cases h
  · cases h
  · obtain ⟨i, hi⟩ := h
    cases hi
  · cases h

/-! ## One thread moves -/

section Update

variable [DecidableEq ι] {capacity : Nat} {queue queue' : List T} {closed closed' : Bool}
  {pc : ι → Pc T}

theorem sleeper_of_update {c : Cond} {i : ι} {p : Pc T}
    (h : ∃ j, sleeps c (Function.update pc i p j) = true) :
    sleeps c p = true ∨ ∃ j, sleeps c (pc j) = true := by
  obtain ⟨j, hj⟩ := h
  by_cases hji : j = i
  · rw [hji, Function.update_self] at hj
    exact .inl hj
  · rw [Function.update_of_ne hji] at hj
    exact .inr ⟨j, hj⟩

/-- The thread does its share of what it takes away, or nothing is left. -/
theorem stocked_update [Fintype ι] {c : Cond} (h : Stocked capacity queue closed pc c) (i : ι)
    (p : Pc T)
    (hclosed : closed' = false → closed = false)
    (hsleep : sleeps c p = true → sleeps c (pc i) = true ∨ supply capacity queue' c = 0)
    (hdue : supply capacity queue' c + due c (pc i) ≤ supply capacity queue c + due c p ∨
      supply capacity queue' c = 0) :
    Stocked capacity queue' closed' (Function.update pc i p) c := by
  intro hopen hex
  rcases hdue with hdue | hzero
  · have hsleeper : (∃ j, sleeps c (pc j) = true) ∨ supply capacity queue' c = 0 := by
      rcases sleeper_of_update hex with hp | hj
      · exact (hsleep hp).imp_left fun hi => ⟨i, hi⟩
      · exact .inl hj
    rcases hsleeper with hsleeper | hzero
    · have hle := h (hclosed hopen) hsleeper
      have htotal := total_update (due c) pc i p
      omega
    · omega
  · omega

theorem alarmed_update {c : Cond} (h : Alarmed closed pc c) (i : ι) (p : Pc T)
    (hsleep : closed = true → sleeps c p = true → sleeps c (pc i) = true)
    (hwakes : wakes c (pc i) = true → wakes c p = true) :
    Alarmed closed (Function.update pc i p) c := by
  intro hc hex
  have hsleeper : ∃ j, sleeps c (pc j) = true := by
    rcases sleeper_of_update hex with hp | hj
    · exact ⟨i, hsleep hc hp⟩
    · exact hj
  obtain ⟨j, hj⟩ := h hc hsleeper
  by_cases hji : j = i
  · rw [hji] at hj
    exact ⟨i, by rw [Function.update_self]; exact hwakes hj⟩
  · exact ⟨j, by rw [Function.update_of_ne hji]; exact hj⟩

/-- A property of all threads, as one of them moves. -/
theorem forall_update {P : ι → Pc T → Prop} {i : ι} {p : Pc T} (h : ∀ j, P j (pc j))
    (hp : P i p) (j : ι) : P j (Function.update pc i p j) := by
  by_cases hji : j = i
  · rw [hji, Function.update_self]
    exact hp
  · rw [Function.update_of_ne hji]
    exact h j

/-- The thread keeps the mutex, or keeps being without it. -/
theorem mutex_keep {m : Option ι} (h : ∀ j, m = some j ↔ holds (pc j) = true) (i : ι) (p : Pc T)
    (hp : holds p = holds (pc i)) (j : ι) :
    m = some j ↔ holds (Function.update pc i p j) = true :=
  forall_update (P := fun j p => m = some j ↔ holds p = true) h (by rw [hp]; exact h i) j

theorem mutex_take {i : ι} (h : ∀ j, none = some j ↔ holds (pc j) = true) (p : Pc T)
    (hp : holds p = true) (j : ι) : some i = some j ↔ holds (Function.update pc i p j) = true := by
  by_cases hji : j = i
  · rw [hji, Function.update_self]
    exact iff_of_true rfl hp
  · rw [Function.update_of_ne hji, ← h j]
    exact iff_of_false (fun heq => hji (Option.some.inj heq).symm) (by simp)

theorem mutex_give {m : Option ι} (h : ∀ j, m = some j ↔ holds (pc j) = true) (i : ι) (p : Pc T)
    (hi : holds (pc i) = true) (hp : holds p = false) (j : ι) :
    none = some j ↔ holds (Function.update pc i p j) = true := by
  by_cases hji : j = i
  · rw [hji, Function.update_self, hp]
    simp
  · rw [Function.update_of_ne hji, ← h j, (h i).mpr hi]
    simp [Ne.symm hji]

end Update

/-! ## What a section can do -/

inductive Attempted (capacity : Nat) (queue : List T) (closed : Bool) (op : Op T) :
    Section T → Prop where
  /-- it is over, with nothing left to look for -/
  | leaves (ret : Ret T)
      (hc : ∀ c, op.cond = some c → closed = true ∨ supply capacity queue c = 0) :
      Attempted capacity queue closed op ⟨queue, closed, .leaving ret⟩
  | waits (c : Cond) (hc : op.cond = some c) (hopen : closed = false)
      (hnone : supply capacity queue c = 0) (hbound : c = .notFull → 0 < capacity) :
      Attempted capacity queue closed op ⟨queue, closed, .asleep op⟩
  | pushes (value : T) (ret : Ret T) (hop : op.value = [value]) (hc : op.cond ≠ some .notEmpty)
      (hopen : closed = false) (hroom : isFull capacity queue = false) :
      Attempted capacity queue closed op ⟨queue ++ [value], closed, .pushed ret⟩
  | pops (value : T) (rest : List T) (hq : queue = value :: rest)
      (hc : op.cond ≠ some .notFull) :
      Attempted capacity queue closed op ⟨rest, closed, .dequeued value⟩
  | closes : Attempted capacity queue closed op ⟨queue, true, .closing⟩

theorem isFull_iff {capacity : Nat} {queue : List T} :
    isFull capacity queue = true ↔ 0 < capacity ∧ capacity ≤ queue.length := decide_eq_true_iff

theorem supply_of_full {capacity : Nat} {queue : List T} (h : isFull capacity queue = true) :
    supply capacity queue .notFull = 0 := Nat.sub_eq_zero_of_le (isFull_iff.mp h).2

theorem attempted_dequeue {capacity : Nat} {queue : List T} {closed : Bool} {op : Op T}
    {otherwise : Pc T} (hc : op.cond ≠ some .notFull)
    (h : queue = [] → Attempted capacity queue closed op ⟨queue, closed, otherwise⟩) :
    Attempted capacity queue closed op (dequeue queue closed otherwise) := by
  unfold dequeue
  split
  · next value rest => exact .pops value rest rfl hc
  · exact h rfl

theorem attempted (capacity : Nat) (queue : List T) (closed timeout : Bool) (op : Op T) :
    Attempted capacity queue closed op (attempt capacity queue closed timeout op) := by
  have hempty : ∀ c, some Cond.notEmpty = some c → queue = [] → supply capacity queue c = 0 := by
    intro c hc hq
    rw [← Option.some.inj hc, hq]
    rfl
  have hfull : ∀ c, some Cond.notFull = some c → isFull capacity queue = true →
      supply capacity queue c = 0 := by
    intro c hc hq
    rw [← Option.some.inj hc]
    exact supply_of_full hq
  cases op with
  | push value =>
      rw [attempt]
      split
      · next hclosed => exact .leaves .threw fun _ _ => .inl hclosed
      · next hopen =>
          have hopen := Bool.eq_false_of_not_eq_true hopen
          split
          · next hf =>
              exact .waits .notFull rfl hopen (supply_of_full hf) fun _ => (isFull_iff.mp hf).1
          · next hf =>
              exact .pushes value .void rfl (by simp [Op.cond]) hopen
                (Bool.eq_false_of_not_eq_true hf)
  | pushFor value =>
      rw [attempt]
      split
      · next hclosed => exact .leaves _ fun _ _ => .inl hclosed
      · next hopen =>
          have hopen := Bool.eq_false_of_not_eq_true hopen
          split
          · next hf =>
              split
              · exact .leaves _ fun c hc => .inr (hfull c hc hf)
              · exact .waits .notFull rfl hopen (supply_of_full hf) fun _ => (isFull_iff.mp hf).1
          · next hf =>
              exact .pushes value _ rfl (by simp [Op.cond]) hopen
                (Bool.eq_false_of_not_eq_true hf)
  | tryPush value =>
      rw [attempt]
      split
      · exact .leaves _ fun _ hc => by cases hc
      · next h =>
          obtain ⟨hopen, hf⟩ := Bool.or_eq_false_iff.mp (Bool.eq_false_of_not_eq_true h)
          exact .pushes value _ rfl (by simp [Op.cond]) hopen hf
  | pop =>
      refine attempted_dequeue (by simp [Op.cond]) fun hq => ?_
      split
      · next hclosed => exact .leaves _ fun _ _ => .inl hclosed
      · next hopen =>
          exact .waits .notEmpty rfl (Bool.eq_false_of_not_eq_true hopen) (hempty _ rfl hq)
            (by simp)
  | popFor =>
      refine attempted_dequeue (by simp [Op.cond]) fun hq => ?_
      split
      · exact .leaves _ fun c hc => .inr (hempty c hc hq)
      · next h =>
          obtain ⟨hopen, -⟩ := Bool.or_eq_false_iff.mp (Bool.eq_false_of_not_eq_true h)
          exact .waits .notEmpty rfl hopen (hempty _ rfl hq) (by simp)
  | tryPop =>
      exact attempted_dequeue (by simp [Op.cond]) fun _ => .leaves _ fun _ hc => by cases hc
  | close => exact .closes
  | isClosed => exact .leaves _ fun _ hc => by cases hc

/-! ## The steps keep the invariant -/

section Steps

variable [DecidableEq ι] [Fintype ι] {capacity : Nat} {s s' : QueueState ι T}

/-- A thread moves between two sections, or wakes. -/
theorem sound_at (hI : Sound capacity s) {i : ι} {p : Pc T} {m : Option ι}
    (hm : ∀ j, m = some j ↔ holds (Function.update s.pc i p j) = true)
    (hsleep : ∀ c, sleeps c p = false) (hdue : ∀ c, due c (s.pc i) ≤ due c p)
    (hwakes : ∀ c, wakes c p = wakes c (s.pc i)) :
    Sound capacity { s.at i p with mutex := m } where
  bound := hI.bound
  fifo := hI.fifo
  mutex := hm
  shut := forall_update (P := fun _ p => wakes .notFull p = true → s.closed = true) hI.shut
    fun h => hI.shut i (by rw [← hwakes]; exact h)
  bounded := forall_update (P := fun _ p => sleeps .notFull p = true → 0 < capacity) hI.bounded
    fun h => absurd (h.symm.trans (hsleep .notFull)) (by decide)
  stocked c := stocked_update (hI.stocked c) i p id
    (fun h => absurd (h.symm.trans (hsleep c)) (by decide)) (.inl (Nat.add_le_add_left (hdue c) _))
  alarmed c := alarmed_update (hI.alarmed c) i p
    (fun _ h => absurd (h.symm.trans (hsleep c)) (by decide)) fun h => by rw [hwakes]; exact h

/-- A section. -/
theorem sound_perform (hI : Sound capacity s) {i : ι} {op : Op T}
    (hi : s.pc i = .inside op ∨ ∃ timeout, s.pc i = .back op timeout) (b : Bool) :
    Sound capacity (s.perform capacity i op b) := by
  have hholds : holds (s.pc i) = true := by rcases hi with hi | ⟨_, hi⟩ <;> rw [hi] <;> rfl
  have hwakes : ∀ c, wakes c (s.pc i) = false := by
    intro c
    rcases hi with hi | ⟨_, hi⟩ <;> rw [hi] <;> rfl
  have hdue : ∀ c, due c (s.pc i) ≤ if op.cond = some c then 1 else 0 := by
    intro c
    rcases hi with hi | ⟨_, hi⟩
    · rw [hi]
      exact Nat.zero_le _
    · rw [hi]
      exact Nat.le_refl _
  have hkeep : ∀ p, holds p = true →
      ∀ j, s.mutex = some j ↔ holds (Function.update s.pc i p j) = true := fun p hp =>
    mutex_keep hI.mutex i p (hp.trans hholds.symm)
  have hshut : ∀ p, (∀ c, wakes c p = false) → ∀ j,
      wakes .notFull (Function.update s.pc i p j) = true → s.closed = true := fun p hp =>
    forall_update (P := fun _ p => wakes .notFull p = true → s.closed = true) hI.shut
      fun h => absurd (h.symm.trans (hp .notFull)) (by decide)
  have hbounded : ∀ p, (sleeps .notFull p = true → 0 < capacity) → ∀ j,
      sleeps .notFull (Function.update s.pc i p j) = true → 0 < capacity := fun p hp =>
    forall_update (P := fun _ p => sleeps .notFull p = true → 0 < capacity) hI.bounded hp
  have halarmed : ∀ p c, (s.closed = true → sleeps c p = false) →
      Alarmed s.closed (Function.update s.pc i p) c := fun p c hp =>
    alarmed_update (hI.alarmed c) i p
      (fun hc h => absurd (h.symm.trans (hp hc)) (by decide))
      fun h => absurd (h.symm.trans (hwakes c)) (by decide)
  unfold QueueState.perform
  generalize hr : attempt capacity s.queue s.closed b op = r
  have hatt : Attempted capacity s.queue s.closed op r := hr ▸ attempted _ _ _ _ _
  cases hatt with
  | leaves ret hc =>
      refine ⟨hI.bound, ?_, hkeep _ rfl, hshut _ fun _ => rfl, hbounded _ (by simp [sleeps]),
        fun c => ?_, fun c => halarmed _ c fun _ => rfl⟩
      · simpa [put, taken] using hI.fifo
      · intro hopen
        refine stocked_update (hI.stocked c) i _ id (by simp [sleeps]) ?_ hopen
        by_cases hcond : op.cond = some c
        · exact .inr ((hc c hcond).resolve_left (by rw [hopen]; exact Bool.false_ne_true))
        · have hle := hdue c
          rw [if_neg hcond] at hle
          exact .inl (Nat.add_le_add_left hle _)
  | waits c₀ hc hopen hnone hbound =>
      have hcond : ∀ c, sleeps c (.asleep op) = true → c = c₀ := by
        intro c h
        exact Option.some.inj ((of_decide_eq_true h).symm.trans hc)
      refine ⟨hI.bound, ?_, mutex_give hI.mutex i _ hholds rfl, hshut _ fun _ => rfl,
        hbounded _ fun h => hbound (hcond _ h).symm, fun c => ?_, fun c => halarmed _ c ?_⟩
      · simpa [put, taken] using hI.fifo
      · by_cases hcc : c = c₀
        · rw [hcc]
          exact stocked_update (hI.stocked c₀) i _ id (fun _ => .inr hnone) (.inr hnone)
        · have hle := hdue c
          rw [if_neg fun h => hcc (Option.some.inj (h.symm.trans hc))] at hle
          exact stocked_update (hI.stocked c) i _ id (fun h => absurd (hcond c h) hcc)
            (.inl (Nat.add_le_add_left hle _))
      · intro hclosed
        rw [hopen] at hclosed
        cases hclosed
  | pushes value ret hop hc hopen hroom =>
      refine ⟨fun hcap => ?_, ?_, hkeep _ rfl, hshut _ fun _ => rfl, hbounded _ (by simp [sleeps]),
        fun c => ?_, fun c => halarmed _ c fun _ => rfl⟩
      · have hlt : ¬ capacity ≤ s.queue.length := fun hle => by
          rw [isFull_iff.mpr ⟨hcap, hle⟩] at hroom
          cases hroom
        simp only [List.length_append, List.length_singleton]
        omega
      · simp [put, taken, hop, hI.fifo]
      · refine stocked_update (hI.stocked c) i _ id (by simp [sleeps]) ?_
        cases c with
        | notEmpty =>
            have hle := hdue .notEmpty
            rw [if_neg hc] at hle
            left
            rw [due_pushed]
            simp only [supply, List.length_append, List.length_singleton]
            omega
        | notFull =>
            have hle := hdue .notFull
            have hone : (if op.cond = some .notFull then 1 else 0) ≤ 1 := by split <;> omega
            simp only [supply, List.length_append, List.length_singleton]
            omega
  | pops value rest hq hc =>
      refine ⟨fun hcap => ?_, ?_, hkeep _ rfl, hshut _ fun _ => rfl, hbounded _ (by simp [sleeps]),
        fun c => ?_, fun c => halarmed _ c fun _ => rfl⟩
      · have hbound := hI.bound hcap
        rw [hq, List.length_cons] at hbound
        exact Nat.le_of_succ_le hbound
      · simp [put, taken, hI.fifo, hq]
      · refine stocked_update (hI.stocked c) i _ id (by simp [sleeps]) (.inl ?_)
        cases c with
        | notEmpty =>
            have hle := hdue .notEmpty
            have hone : (if op.cond = some .notEmpty then 1 else 0) ≤ 1 := by split <;> omega
            simp only [supply, hq, List.length_cons]
            omega
        | notFull =>
            have hle := hdue .notFull
            rw [if_neg hc] at hle
            rw [due_dequeued]
            simp only [supply, hq, List.length_cons]
            omega
  | closes =>
      refine ⟨hI.bound, ?_, hkeep _ rfl, fun _ _ => rfl, hbounded _ (by simp [sleeps]),
        fun c h => ?_, fun c _ _ => ⟨i, ?_⟩⟩
      · simpa [put, taken] using hI.fifo
      · cases h
      · dsimp only
        rw [Function.update_self]
        rfl

theorem asleep_of_sleeps {c : Cond} {p : Pc T} (h : sleeps c p = true) :
    ∃ op, p = .asleep op ∧ op.cond = some c := by
  cases p with
  | asleep op => exact ⟨op, rfl, of_decide_eq_true h⟩
  | idle | entering | inside | woken | back | pushed | notifying | dequeued | closing
  | wakingEmpty | wakingFull | leaving | returned => cases h

/-- A sleeping thread is woken by one whose share is taken over. -/
theorem sound_woken {pc : ι → Pc T} {c : Cond} {k : ι} (hbound : 0 < capacity →
    s.queue.length ≤ capacity) (hfifo : s.pushLog = s.popLog ++ s.queue)
    (hmutex : ∀ j, s.mutex = some j ↔ holds (pc j) = true)
    (hshut : ∀ j, wakes .notFull (pc j) = true → s.closed = true)
    (hbounded : ∀ j, sleeps .notFull (pc j) = true → 0 < capacity)
    (halarmed : ∀ d, Alarmed s.closed pc d)
    (hshare : s.closed = false → supply capacity s.queue c ≤ total (due c) pc + 1)
    (hstocked : ∀ d, d ≠ c → Stocked capacity s.queue s.closed pc d)
    (hk : sleeps c (pc k) = true) :
    Sound capacity { s with pc := Function.update pc k (notified (pc k)) } := by
  obtain ⟨op, hop, hc⟩ := asleep_of_sleeps hk
  rw [hop, notified]
  have hdue : ∀ d, due d (pc k) = 0 := by
    intro d
    rw [hop]
    rfl
  refine ⟨hbound, hfifo, mutex_keep hmutex k _ (by rw [hop]; rfl), ?_, ?_, fun d => ?_,
    fun d => ?_⟩
  · exact forall_update (P := fun _ p => wakes .notFull p = true → s.closed = true) hshut
      fun h => by cases h
  · exact forall_update (P := fun _ p => sleeps .notFull p = true → 0 < capacity) hbounded
      fun h => by cases h
  · by_cases hd : d = c
    · rw [hd]
      rintro hopen -
      have hle := hshare hopen
      have htotal := total_update (due c) pc k (.woken op false)
      have hwoken : due c (.woken op false : Pc T) = 1 := if_pos hc
      have hzero := hdue c
      dsimp only
      omega
    · exact stocked_update (hstocked d hd) k _ id (fun h => by cases h)
        (.inl (by rw [hdue]; exact Nat.add_le_add_left (Nat.zero_le _) _))
  · refine alarmed_update (halarmed d) k _ (fun _ h => by cases h) fun h => ?_
    rw [hop] at h
    cases h

/-- `notify_one`, of a thread that is on its way out. -/
theorem sound_notify (hI : Sound capacity s) {i : ι} {p : Pc T} {c : Cond} {sleeper : Option ι}
    (hholds : holds p = holds (s.pc i)) (hsleep : ∀ d, sleeps d p = false)
    (hi : ∀ d, wakes d (s.pc i) = false) (hp : ∀ d, wakes d p = false)
    (hdue : ∀ d, due d (s.pc i) ≤ if d = c then 1 else 0)
    (h : (s.at i p).notify c sleeper = some s') : Sound capacity s' := by
  have hmutex := mutex_keep hI.mutex i p hholds
  have hshut : ∀ j, wakes .notFull (Function.update s.pc i p j) = true → s.closed = true :=
    forall_update (P := fun _ p => wakes .notFull p = true → s.closed = true) hI.shut
      fun h => absurd (h.symm.trans (hp .notFull)) (by decide)
  have hbounded : ∀ j, sleeps .notFull (Function.update s.pc i p j) = true → 0 < capacity :=
    forall_update (P := fun _ p => sleeps .notFull p = true → 0 < capacity) hI.bounded
      fun h => absurd (h.symm.trans (hsleep .notFull)) (by decide)
  have halarmed : ∀ d, Alarmed s.closed (Function.update s.pc i p) d := fun d =>
    alarmed_update (hI.alarmed d) i p (fun _ h => absurd (h.symm.trans (hsleep d)) (by decide))
      fun h => absurd (h.symm.trans (hi d)) (by decide)
  have hstocked : ∀ d, d ≠ c → Stocked capacity s.queue s.closed (Function.update s.pc i p) d := by
    intro d hd
    have hle := hdue d
    rw [if_neg hd] at hle
    exact stocked_update (hI.stocked d) i p id
      (fun h => absurd (h.symm.trans (hsleep d)) (by decide)) (.inl (by omega))
  unfold QueueState.notify at h
  split at h
  · split at h
    · next hnone =>
        cases h
        refine ⟨hI.bound, hI.fifo, hmutex, hshut, hbounded, fun d => ?_, halarmed⟩
        by_cases hd : d = c
        · rw [hd]
          rintro - ⟨j, hj⟩
          exact absurd ((hnone j).symm.trans hj) (by decide)
        · exact hstocked d hd
    · cases h
  · next k =>
      split at h
      · next hk =>
          cases h
          obtain ⟨op, hop, -⟩ := asleep_of_sleeps hk
          have hki : k ≠ i := by
            rintro rfl
            rw [show (s.at k p).pc k = p from Function.update_self _ _ _] at hk
            exact absurd (hk.symm.trans (hsleep c)) (by decide)
          refine sound_woken hI.bound hI.fifo hmutex hshut hbounded halarmed (fun hopen => ?_)
            hstocked hk
          -- the sleeper was there before
          have hk' : sleeps c (s.pc k) = true := by
            rwa [show (s.at i p).pc k = s.pc k from Function.update_of_ne hki _ _] at hk
          have hsupply := hI.stocked c hopen ⟨k, hk'⟩
          have htotal := total_update (due c) s.pc i p
          have hle := hdue c
          rw [if_pos rfl] at hle
          change supply capacity s.queue c ≤ total (due c) (Function.update s.pc i p) + 1
          omega
      · cases h

/-- `notify_all`, by a thread that closes the queue. -/
theorem sound_notifyEach (hI : Sound capacity s) {i : ι} {p : Pc T} {c : Cond}
    (hclosed : s.closed = true) (hholds : holds p = holds (s.pc i))
    (hsleep : ∀ d, sleeps d p = false)
    (hwakes : ∀ d, d ≠ c → wakes d (s.pc i) = true → wakes d p = true) :
    Sound capacity ((s.at i p).notifyEach c) := by
  have hmutex := mutex_keep hI.mutex i p hholds
  -- what a thread is at afterwards
  have hpc : ∀ j, ((s.at i p).notifyEach c).pc j = Function.update s.pc i p j ∨
      ∃ op, op.cond = some c ∧ Function.update s.pc i p j = .asleep op ∧
        ((s.at i p).notifyEach c).pc j = .woken op false := by
    intro j
    by_cases hj : sleeps c ((s.at i p).pc j) = true
    · obtain ⟨op, hop, hc⟩ := asleep_of_sleeps hj
      refine .inr ⟨op, hc, hop, ?_⟩
      exact (if_pos hj).trans (by rw [hop, notified])
    · exact .inl (if_neg hj)
  have hnone : ∀ j, sleeps c (((s.at i p).notifyEach c).pc j) = false := by
    intro j
    rcases hpc j with h | ⟨op, -, -, h⟩
    · refine Bool.eq_false_of_not_eq_true fun hj => ?_
      have hj' : sleeps c ((s.at i p).pc j) = true := by
        rw [h] at hj
        exact hj
      rw [show ((s.at i p).notifyEach c).pc j = notified ((s.at i p).pc j) from if_pos hj'] at hj
      obtain ⟨op, hop, -⟩ := asleep_of_sleeps hj'
      rw [hop, notified] at hj
      cases hj
    · rw [h]
      rfl
  have hslept : ∀ d j, sleeps d (((s.at i p).notifyEach c).pc j) = true →
      sleeps d (s.pc j) = true := by
    intro d j hj
    rcases hpc j with h | ⟨op, -, -, h⟩
    · rw [h] at hj
      by_cases hji : j = i
      · rw [hji, Function.update_self, hsleep] at hj
        cases hj
      · rwa [Function.update_of_ne hji] at hj
    · rw [h] at hj
      cases hj
  refine ⟨hI.bound, hI.fifo, fun j => ?_, fun _ _ => hclosed, fun j hj => ?_, fun d hopen _ => ?_,
    fun d _ hex => ?_⟩
  · rcases hpc j with h | ⟨op, -, hop, h⟩
    · rw [h]
      exact hmutex j
    · have hj := hmutex j
      rw [hop] at hj
      rw [h]
      exact hj
  · exact hI.bounded j (hslept .notFull j hj)
  · exact absurd (hclosed.symm.trans hopen) (by decide)
  · obtain ⟨j, hj⟩ := hex
    have hd : d ≠ c := by
      rintro rfl
      exact absurd ((hnone j).symm.trans hj) (by decide)
    obtain ⟨k, hk⟩ := hI.alarmed d hclosed ⟨j, hslept d j hj⟩
    by_cases hki : k = i
    · rw [hki] at hk
      refine ⟨i, ?_⟩
      rcases hpc i with h | ⟨op, -, hop, -⟩
      · rw [h, Function.update_self]
        exact hwakes d hd hk
      · rw [Function.update_self] at hop
        have hwk := hwakes d hd hk
        rw [hop] at hwk
        cases hwk
    · refine ⟨k, ?_⟩
      rcases hpc k with h | ⟨op, -, hop, -⟩
      · rw [h, Function.update_of_ne hki]
        exact hk
      · rw [Function.update_of_ne hki] at hop
        rw [hop] at hk
        cases hk

theorem sound_step (hI : Sound capacity s) {a : Act ι T} (h : step capacity s a = some s') :
    Sound capacity s' := by
  cases a with
  | call i op =>
      rw [step] at h
      split at h
      · next hi =>
          cases h
          exact sound_at hI (mutex_keep hI.mutex i _ (by rw [hi]; rfl)) (fun _ => rfl)
            (fun _ => by rw [hi]; rfl) fun _ => by rw [hi]; rfl
      · next ret hi =>
          cases h
          exact sound_at hI (mutex_keep hI.mutex i _ (by rw [hi]; rfl)) (fun _ => rfl)
            (fun _ => by rw [hi]; rfl) fun _ => by rw [hi]; rfl
      · cases h
  | lock i =>
      rw [step] at h
      have hmutex := hI.mutex
      split at h
      · next op hm hi =>
          cases h
          rw [hm] at hmutex
          exact sound_at hI (mutex_take hmutex _ rfl) (fun _ => rfl) (fun _ => by rw [hi]; rfl)
            fun _ => by rw [hi]; rfl
      · next op timeout hm hi =>
          cases h
          rw [hm] at hmutex
          exact sound_at hI (mutex_take hmutex _ rfl) (fun _ => rfl)
            (fun _ => by rw [hi]; exact Nat.le_refl _) fun _ => by rw [hi]; rfl
      · cases h
  | work i =>
      rw [step] at h
      split at h
      · next op hi =>
          cases h
          exact sound_perform hI (.inl hi) false
      · next op timeout hi =>
          cases h
          exact sound_perform hI (.inr ⟨timeout, hi⟩) timeout
      · cases h
  | unlock i =>
      rw [step] at h
      split at h
      · next ret hi =>
          cases h
          exact sound_at hI (mutex_give hI.mutex i _ (by rw [hi]; rfl) rfl) (fun _ => rfl)
            (fun _ => by rw [hi]; exact Nat.le_refl _) fun _ => by rw [hi]; rfl
      · next hi =>
          cases h
          exact sound_at hI (mutex_give hI.mutex i _ (by rw [hi]; rfl) rfl) (fun _ => rfl)
            (fun _ => by rw [hi]; exact Nat.le_refl _) fun _ => by rw [hi]; rfl
      · next ret hi =>
          cases h
          exact sound_at hI (mutex_give hI.mutex i _ (by rw [hi]; rfl) rfl) (fun _ => rfl)
            (fun _ => by rw [hi]; exact Nat.le_refl _) fun _ => by rw [hi]; rfl
      · cases h
  | notifyOne i sleeper =>
      rw [step] at h
      split at h
      · next ret hi =>
          refine sound_notify hI (by rw [hi]; rfl) (fun _ => rfl) (fun _ => by rw [hi]; rfl)
            (fun _ => rfl) (fun d => ?_) h
          rw [hi]
          exact Nat.le_refl _
      · next value hi =>
          refine sound_notify hI (by rw [hi]; rfl) (fun _ => rfl) (fun _ => by rw [hi]; rfl)
            (fun _ => rfl) (fun d => ?_) h
          rw [hi]
          exact Nat.le_refl _
      · cases h
  | notifyAll i =>
      rw [step] at h
      split at h
      · next hi =>
          cases h
          refine sound_notifyEach hI (hI.shut i (by rw [hi]; rfl)) (by rw [hi]; rfl) (fun _ => rfl)
            fun d hd _ => ?_
          cases d with
          | notEmpty => exact absurd rfl hd
          | notFull => rfl
      · next hi =>
          cases h
          refine sound_notifyEach hI (hI.shut i (by rw [hi]; rfl)) (by rw [hi]; rfl) (fun _ => rfl)
            fun d hd hw => ?_
          rw [hi] at hw
          exact absurd (of_decide_eq_true hw) hd
      · cases h
  | wake i =>
      rw [step] at h
      split at h
      · next op hi =>
          cases h
          exact sound_at hI (mutex_keep hI.mutex i _ (by rw [hi]; rfl)) (fun _ => rfl)
            (fun _ => by rw [hi]; exact Nat.zero_le _) fun _ => by rw [hi]; rfl
      · cases h
  | expire i =>
      rw [step] at h
      split at h
      · next op hi =>
          split at h
          · cases h
            exact sound_at hI (mutex_keep hI.mutex i _ (by rw [hi]; rfl)) (fun _ => rfl)
              (fun _ => by rw [hi]; exact Nat.zero_le _) fun _ => by rw [hi]; rfl
          · cases h
      · next op timeout hi =>
          split at h
          · cases h
            exact sound_at hI (mutex_keep hI.mutex i _ (by rw [hi]; rfl)) (fun _ => rfl)
              (fun _ => by rw [hi]; exact Nat.le_refl _) fun _ => by rw [hi]; rfl
          · cases h
      · cases h

end Steps

/-! ## Runs -/

/-- The thread is going to look for a sleeper of `c` or to wake it: it is awake in a wait on `c`
    and has the lock or its look ahead, or a notification of `c` is still to come from it. -/
def Pending (c : Cond) (p : Pc T) : Prop := 0 < due c p ∨ wakes c p = true

/-- What the sleepers of `c` wait for is there. -/
def Available (capacity : Nat) (s : QueueState ι T) : Cond → Prop
  | .notEmpty => s.queue ≠ [] ∨ s.closed = true
  | .notFull => isFull capacity s.queue = false ∨ s.closed = true

section

variable [DecidableEq ι] [Fintype ι] {capacity : Nat}

theorem sound_of_run {as : List (Act ι T)} {s : QueueState ι T}
    (h : Lts.run (step capacity) init as = some s) : Sound capacity s :=
  Lts.run_stable (fun _ _ _ hI h => sound_step hI h) (sound_init capacity) h

omit [DecidableEq ι] in
theorem pending_of_sleeps {s : QueueState ι T} (hI : Sound capacity s) {c : Cond} {i : ι}
    (hi : sleeps c (s.pc i) = true) (hav : Available capacity s c) :
    ∃ j, j ≠ i ∧ Pending c (s.pc j) := by
  have hother : ∀ j, Pending c (s.pc j) → j ≠ i := by
    rintro j hj rfl
    obtain ⟨op, hop, -⟩ := asleep_of_sleeps hi
    rw [hop] at hj
    rcases hj with hj | hj
    · exact absurd hj (Nat.lt_irrefl 0)
    · cases hj
  cases hclosed : s.closed with
  | true =>
      obtain ⟨j, hj⟩ := hI.alarmed c hclosed ⟨i, hi⟩
      exact ⟨j, hother j (.inr hj), .inr hj⟩
  | false =>
      have hpos : 0 < supply capacity s.queue c := by
        cases c with
        | notEmpty =>
            have hne := hav.resolve_right (by rw [hclosed]; exact Bool.false_ne_true)
            exact List.length_pos_iff.mpr hne
        | notFull =>
            have hroom := hav.resolve_right (by rw [hclosed]; exact Bool.false_ne_true)
            have hcap := hI.bounded i hi
            refine Nat.sub_pos_of_lt (Nat.lt_of_not_le fun hle => ?_)
            rw [isFull_iff.mpr ⟨hcap, hle⟩] at hroom
            cases hroom
      have hle := hI.stocked c hclosed ⟨i, hi⟩
      obtain ⟨j, hj⟩ := exists_of_total_pos (Nat.lt_of_lt_of_le hpos hle)
      exact ⟨j, hother j (.inl hj), .inl hj⟩

/-- **No waiter is stranded and the queue is never overfilled**, for every capacity and every
    interleaving of any number of threads: a thread that sleeps in a pop while an element or the
    close is there, or in a push while there is room or the queue is closed, has another thread
    that is about to wake it or to look in its place. -/
theorem no_stranded_waiter {as : List (Act ι T)} {s : QueueState ι T}
    (h : Lts.run (step capacity) init as = some s) :
    (0 < capacity → s.queue.length ≤ capacity) ∧
      ∀ c i, sleeps c (s.pc i) = true → Available capacity s c →
        ∃ j, j ≠ i ∧ Pending c (s.pc j) :=
  have hI := sound_of_run h
  ⟨hI.bound, fun _ _ hi hav => pending_of_sleeps hI hi hav⟩

/-- One producer fills a queue of one place, the next one sleeps, a consumer makes room and has
    not told yet. -/
def fullRun : List (Act (Fin 3) Nat) :=
  [.call 0 (.push 7), .lock 0, .work 0, .unlock 0, .notifyOne 0 none, .call 1 (.push 8), .lock 1,
    .work 1, .call 2 .pop, .lock 2, .work 2]

theorem no_stranded_waiter_fullRun : ∃ s, Lts.run (step 1) init fullRun = some s ∧
    s.pc 1 = .asleep (.push 8) ∧ isFull 1 s.queue = false ∧
    ∃ j, j ≠ 1 ∧ Pending .notFull (s.pc j) :=
  ⟨_, rfl, rfl, rfl, (@no_stranded_waiter (Fin 3) Nat _ _ 1 fullRun _ rfl).2 .notFull 1 rfl
    (.inl rfl)⟩

/-! ## At rest -/

/-- A step that the thread takes by itself once it is in a call. -/
def Act.internal : Act ι T → Bool
  | .lock _ | .work _ | .unlock _ | .notifyOne _ _ | .notifyAll _ => true
  | .call _ _ | .wake _ | .expire _ => false

/-- The thread is in no call, or sleeps with reason. -/
def Rests (capacity : Nat) (s : QueueState ι T) : Pc T → Prop
  | .idle | .returned _ => True
  | .asleep op => ∀ c, op.cond = some c → ¬ Available capacity s c
  | _ => False

/-- No thread can go on by itself. -/
def Stuck (capacity : Nat) (s : QueueState ι T) : Prop :=
  ∀ a : Act ι T, a.internal = true → step capacity s a = none

theorem notify_possible (s : QueueState ι T) (c : Cond) : ∃ k, (s.notify c k).isSome = true := by
  by_cases h : ∀ j, sleeps c (s.pc j) = false
  · exact ⟨none, by rw [QueueState.notify, if_pos h]; rfl⟩
  · obtain ⟨j, hj⟩ := not_forall.mp h
    exact ⟨some j, by rw [QueueState.notify, if_pos (Bool.eq_true_of_not_eq_false hj)]; rfl⟩

/-- The thread that has the mutex can go on. -/
theorem holder_moves {s : QueueState ι T} {i : ι} (h : holds (s.pc i) = true) :
    ∃ a : Act ι T, a.internal = true ∧ (step capacity s a).isSome = true := by
  cases hi : s.pc i with
  | inside op => exact ⟨.work i, rfl, by rw [step, hi]; rfl⟩
  | back op timeout => exact ⟨.work i, rfl, by rw [step, hi]; rfl⟩
  | pushed ret => exact ⟨.unlock i, rfl, by rw [step, hi]; rfl⟩
  | closing => exact ⟨.unlock i, rfl, by rw [step, hi]; rfl⟩
  | leaving ret => exact ⟨.unlock i, rfl, by rw [step, hi]; rfl⟩
  | dequeued value =>
      obtain ⟨k, hk⟩ := notify_possible (s.at i (.leaving (.item (some value)))) .notFull
      exact ⟨.notifyOne i k, rfl, by rw [step, hi]; exact hk⟩
  | idle | entering | asleep | woken | notifying | wakingEmpty | wakingFull | returned =>
      rw [hi] at h
      cases h

theorem moves_of_mutex_free {s : QueueState ι T} {i : ι} (hm : s.mutex = none)
    (h : ∀ op, s.pc i ≠ .asleep op) (hidle : s.pc i ≠ .idle)
    (hret : ∀ ret, s.pc i ≠ .returned ret) :
    ∃ a : Act ι T, a.internal = true ∧ (step capacity s a).isSome = true := by
  cases hi : s.pc i with
  | entering op => exact ⟨.lock i, rfl, by rw [step, hm, hi]; rfl⟩
  | woken op timeout => exact ⟨.lock i, rfl, by rw [step, hm, hi]; rfl⟩
  | notifying ret =>
      obtain ⟨k, hk⟩ := notify_possible (s.at i (.returned ret)) .notEmpty
      exact ⟨.notifyOne i k, rfl, by rw [step, hi]; exact hk⟩
  | wakingEmpty => exact ⟨.notifyAll i, rfl, by rw [step, hi]; rfl⟩
  | wakingFull => exact ⟨.notifyAll i, rfl, by rw [step, hi]; rfl⟩
  | inside | back | pushed | dequeued | closing | leaving =>
      exact holder_moves (by rw [hi]; rfl)
  | idle => exact absurd hi hidle
  | asleep op => exact absurd hi (h op)
  | returned ret => exact absurd hi (hret ret)

/-- **Nobody waits in vain**: when no thread can go on by itself, every thread is outside or
    sleeps because what it waits for is not there. -/
theorem rests_of_stuck {s : QueueState ι T} (hI : Sound capacity s) (hstuck : Stuck capacity s)
    (i : ι) : Rests capacity s (s.pc i) := by
  have hno : ∀ a : Act ι T, a.internal = true → ¬ (step capacity s a).isSome = true := by
    intro a ha
    rw [hstuck a ha]
    exact Bool.false_ne_true
  have hm : s.mutex = none := by
    cases hm : s.mutex with
    | none => rfl
    | some j =>
        obtain ⟨a, ha, hs⟩ := holder_moves ((hI.mutex j).mp hm)
        exact absurd hs (hno a ha)
  have hout : ∀ j,
      (∃ op, s.pc j = .asleep op) ∨ s.pc j = .idle ∨ ∃ ret, s.pc j = .returned ret := by
    intro j
    by_contra hj
    rw [not_or, not_or, not_exists, not_exists] at hj
    obtain ⟨a, ha, hs⟩ := moves_of_mutex_free hm hj.1 hj.2.1 hj.2.2
    exact hno a ha hs
  rcases hout i with ⟨op, hi⟩ | hi | ⟨ret, hi⟩
  · rw [hi]
    intro c hc hav
    obtain ⟨j, -, hj⟩ := pending_of_sleeps hI (by rw [hi]; exact decide_eq_true hc) hav
    rcases hout j with ⟨op', hop⟩ | hop | ⟨ret, hop⟩
    all_goals
      rw [hop] at hj
      rcases hj with hj | hj
      · exact absurd hj (Nat.lt_irrefl 0)
      · cases hj
  · rw [hi]
    trivial
  · rw [hi]
    trivial

end

/-! ## What a step changes -/

/-- A thread moves and leaves the queue as it is. -/
inductive Quiet : Pc T → Pc T → Prop where
  | lock (op : Op T) : Quiet (.entering op) (.inside op)
  | relock (op : Op T) (timeout : Bool) : Quiet (.woken op timeout) (.back op timeout)
  | unlockPushed (ret : Ret T) : Quiet (.pushed ret) (.notifying ret)
  | unlockClosing : Quiet .closing .wakingEmpty
  | unlockLeaving (ret : Ret T) : Quiet (.leaving ret) (.returned ret)
  | notify (ret : Ret T) : Quiet (.notifying ret) (.returned ret)
  | notifyDequeued (value : T) : Quiet (.dequeued value) (.leaving (.item (some value)))
  | notifyEmpty : Quiet .wakingEmpty .wakingFull
  | notifyFull : Quiet .wakingFull (.returned .void)
  | wake (op : Op T) (timeout : Bool) : Quiet (.asleep op) (.woken op timeout)
  | expire (op : Op T) (timeout : Bool) : Quiet (.woken op timeout) (.woken op true)

/-- The contents are the same. -/
structure SameQueue (s s' : QueueState ι T) : Prop where
  queue : s'.queue = s.queue
  closed : s'.closed = s.closed
  pushLog : s'.pushLog = s.pushLog
  popLog : s'.popLog = s.popLog

section

variable [DecidableEq ι]

/-- Thread `i` moves quietly or runs a section; others are woken at most. -/
structure Effect (capacity : Nat) (s s' : QueueState ι T) (i : ι) : Prop where
  others : ∀ j, j ≠ i → s'.pc j = s.pc j ∨ s'.pc j = notified (s.pc j)
  moves : Quiet (s.pc i) (s'.pc i) ∧ SameQueue s s' ∨
    ∃ op timeout, (s.pc i = .inside op ∨ s.pc i = .back op timeout) ∧
      s' = s.perform capacity i op timeout

theorem effect_at {capacity : Nat} {s : QueueState ι T} {i : ι} {p : Pc T} {m : Option ι}
    (h : Quiet (s.pc i) p) : Effect capacity s { s.at i p with mutex := m } i where
  others _ hj := .inl (Function.update_of_ne hj _ _)
  moves := .inl ⟨by rwa [show ({ s.at i p with mutex := m } : QueueState ι T).pc i = p from
    Function.update_self _ _ _], rfl, rfl, rfl, rfl⟩

variable [Fintype ι]

theorem effect_notify {capacity : Nat} {s s' : QueueState ι T} {i : ι} {p : Pc T} {c : Cond}
    {sleeper : Option ι} (hp : Quiet (s.pc i) p) (hsleep : sleeps c p = false)
    (h : (s.at i p).notify c sleeper = some s') : Effect capacity s s' i := by
  unfold QueueState.notify at h
  split at h
  · split at h
    · cases h
      exact effect_at hp
    · cases h
  · next k =>
      split at h
      · next hk =>
          cases h
          have hki : k ≠ i := by
            rintro rfl
            rw [show (s.at k p).pc k = p from Function.update_self _ _ _] at hk
            exact absurd (hk.symm.trans hsleep) (by decide)
          have hpck : (s.at i p).pc k = s.pc k := Function.update_of_ne hki _ _
          refine ⟨fun j hj => ?_, .inl ⟨?_, rfl, rfl, rfl, rfl⟩⟩
          · by_cases hjk : j = k
            · rw [hjk, ← hpck]
              exact .inr (Function.update_self _ _ _)
            · exact .inl ((Function.update_of_ne hjk _ _).trans (Function.update_of_ne hj _ _))
          · rw [show ((s.at i p).at k (notified ((s.at i p).pc k))).pc i = p from
              (Function.update_of_ne hki.symm _ _).trans (Function.update_self _ _ _)]
            exact hp
      · cases h

omit [Fintype ι] in
theorem effect_notifyEach {capacity : Nat} {s : QueueState ι T} {i : ι} {p : Pc T} {c : Cond}
    (hp : Quiet (s.pc i) p) (hsleep : sleeps c p = false) :
    Effect capacity s ((s.at i p).notifyEach c) i := by
  have hpci : (s.at i p).pc i = p := Function.update_self _ _ _
  refine ⟨fun j hj => ?_, .inl ⟨?_, rfl, rfl, rfl, rfl⟩⟩
  · have hpcj : (s.at i p).pc j = s.pc j := Function.update_of_ne hj _ _
    unfold QueueState.notifyEach
    dsimp only
    rw [hpcj]
    split
    · exact .inr rfl
    · exact .inl rfl
  · unfold QueueState.notifyEach
    dsimp only
    rw [hpci, hsleep, if_neg Bool.false_ne_true]
    exact hp

/-- What a step inside a call does. -/
theorem effect_of_step {capacity : Nat} {s s' : QueueState ι T} {a : Act ι T}
    (hcall : ∀ i op, a ≠ .call i op) (h : step capacity s a = some s') :
    ∃ i, Effect capacity s s' i := by
  cases a with
  | call i op => exact absurd rfl (hcall i op)
  | lock i =>
      rw [step] at h
      split at h
      · next op _ hi =>
          cases h
          exact ⟨i, effect_at (by rw [hi]; exact .lock op)⟩
      · next op timeout _ hi =>
          cases h
          exact ⟨i, effect_at (by rw [hi]; exact .relock op timeout)⟩
      · cases h
  | work i =>
      rw [step] at h
      split at h
      · next op hi =>
          cases h
          exact ⟨i, fun _ hj => .inl (Function.update_of_ne hj _ _), .inr ⟨op, false, .inl hi, rfl⟩⟩
      · next op timeout hi =>
          cases h
          exact ⟨i, fun _ hj => .inl (Function.update_of_ne hj _ _),
            .inr ⟨op, timeout, .inr hi, rfl⟩⟩
      · cases h
  | unlock i =>
      rw [step] at h
      split at h
      · next ret hi =>
          cases h
          exact ⟨i, effect_at (by rw [hi]; exact .unlockPushed ret)⟩
      · next hi =>
          cases h
          exact ⟨i, effect_at (by rw [hi]; exact .unlockClosing)⟩
      · next ret hi =>
          cases h
          exact ⟨i, effect_at (by rw [hi]; exact .unlockLeaving ret)⟩
      · cases h
  | notifyOne i sleeper =>
      rw [step] at h
      split at h
      · next ret hi => exact ⟨i, effect_notify (by rw [hi]; exact .notify ret) rfl h⟩
      · next value hi => exact ⟨i, effect_notify (by rw [hi]; exact .notifyDequeued value) rfl h⟩
      · cases h
  | notifyAll i =>
      rw [step] at h
      split at h
      · next hi =>
          cases h
          exact ⟨i, effect_notifyEach (by rw [hi]; exact .notifyEmpty) rfl⟩
      · next hi =>
          cases h
          exact ⟨i, effect_notifyEach (by rw [hi]; exact .notifyFull) rfl⟩
      · cases h
  | wake i =>
      rw [step] at h
      split at h
      · next op hi =>
          cases h
          exact ⟨i, effect_at (by rw [hi]; exact .wake op false)⟩
      · cases h
  | expire i =>
      rw [step] at h
      split at h
      · next op hi =>
          split at h
          · cases h
            exact ⟨i, effect_at (by rw [hi]; exact .wake op true)⟩
          · cases h
      · next op timeout hi =>
          split at h
          · cases h
            exact ⟨i, effect_at (by rw [hi]; exact .expire op timeout)⟩
          · cases h
      · cases h

/-- A closed queue stays closed and gets nothing. -/
theorem closed_step {capacity : Nat} {s s' : QueueState ι T} {a : Act ι T}
    (h : step capacity s a = some s') (hclosed : s.closed = true) :
    s'.closed = true ∧ s'.pushLog = s.pushLog := by
  by_cases hcall : ∃ i op, a = .call i op
  · obtain ⟨i, op, rfl⟩ := hcall
    rw [step] at h
    split at h
    · cases h
      exact ⟨hclosed, rfl⟩
    · cases h
      exact ⟨hclosed, rfl⟩
    · cases h
  · obtain ⟨i, he⟩ := effect_of_step (fun i op ha => hcall ⟨i, op, ha⟩) h
    rcases he.moves with ⟨-, hsame⟩ | ⟨op, timeout, -, rfl⟩
    · exact ⟨hsame.closed.trans hclosed, hsame.pushLog⟩
    · unfold QueueState.perform
      generalize hr : attempt capacity s.queue s.closed timeout op = r
      have hatt : Attempted capacity s.queue s.closed op r := hr ▸ attempted _ _ _ _ _
      cases hatt with
      | leaves | waits | pops | closes => simp [put, hclosed]
      | pushes value ret hop hc hopen => exact absurd (hclosed.symm.trans hopen) (by decide)

end

end RtspServer.BlockingQueue
