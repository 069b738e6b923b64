/-
  Model of the write side of a session: the pool worker that pushes buffers to `outbox_`
  (`sendResponse`, `pushTCPFrame`, `enableWrite`, `handleTeardown`) and the Dispatcher that
  drains them (`onWritable`, and `closeSession` after a false return). Each atomic operation of
  the source (a queue operation, an atomic load, store or compare-exchange, an `epoll_ctl`, a
  `send`) is one action, so the runs are all interleavings of the two threads. There is one
  worker: a session has at most one pacer task at a time.

  `interest` is the entry of the socket in the epoll set: `none` when it is not registered,
  otherwise whether EPOLLOUT is asked for (EPOLLIN and EPOLLRDHUP always are). The Dispatcher
  enters `onWritable` on an EPOLLOUT event only.

  The wake-up can be lost. The Dispatcher finds the outbox empty; the worker pushes a buffer and
  its compare-exchange fails, since `epollout_armed_` is still true; then the Dispatcher
  disarms EPOLLOUT and clears the flag. `noLostWakeup_of_run` shows that this is the only way:
  the wake-up is kept in every run in which no compare-exchange falls, with a buffer queued,
  between the failing `try_pop` and the store of the flag, and every run in which one does can
  be continued to a state in which the wake-up is lost.
-/
import RtspServer.Lib.Lts
import RtspServer.Lib.ByteString

namespace RtspServer.WriteWake

open ByteString

def kOutboxHWM : Nat := 5 * 1024 * 1024

/-! ## The two threads -/

/-- Where the worker is. `teardown` says that `handleTeardown` called `sendResponse` and still
    has to store `close_after_write_`. -/
inductive WorkerPc where
  | idle
  /-- `pushTCPFrame` has passed the watermark check -/
  | checked (frame : Bytes)
  /-- `outbox_bytes_.fetch_add` is done, the push is next -/
  | added (buf : Bytes) (teardown : Bool)
  /-- the buffer is pushed, `compare_exchange_strong` is next -/
  | pushed (teardown : Bool)
  /-- the compare-exchange succeeded, `epoll_ctl` is next -/
  | arming (teardown : Bool)
  /-- `close_after_write_.store(true)` is next -/
  | closing
  deriving DecidableEq

/-- Where the Dispatcher is. -/
inductive DispatcherPc where
  | idle
  /-- at the top of the loop of `onWritable` -/
  | top
  /-- a buffer was popped, `outbox_bytes_.load` is next -/
  | popped
  /-- `fetch_sub` of the smaller of the buffer size and the loaded value is next -/
  | loaded (bytes : Nat)
  /-- `send` is next -/
  | sending
  /-- `try_pop` found nothing, `epoll_ctl` without EPOLLOUT is next -/
  | emptied
  /-- `epollout_armed_.store(false)` is next -/
  | disarmed
  /-- `close_after_write_.load` is next -/
  | cleared
  /-- `onWritable` returned false or the peer is gone, `closeSession` is next -/
  | failed
  /-- the session is removed from the epoll set and from the map -/
  | closed
  deriving DecidableEq

structure WriteState where
  outbox : List Bytes
  outboxBytes : Nat
  wbuf : Option Bytes
  woff : Nat
  epolloutArmed : Bool
  closeAfterWrite : Bool
  interest : Option Bool
  worker : WorkerPc
  dispatcher : DispatcherPc
  deriving DecidableEq

/-- An accepted session: registered for reading, nothing to write. -/
def init : WriteState :=
  { outbox := [], outboxBytes := 0, wbuf := none, woff := 0, epolloutArmed := false,
    closeAfterWrite := false, interest := some false, worker := .idle, dispatcher := .idle }

/-- The results of `send`. -/
inductive Sent where
  | bytes (n : Nat)
  | zero
  | eagain
  | eintr
  | error
  deriving DecidableEq

/-- The atomic steps. -/
inductive Act where
  /-- `sendResponse`: `outbox_bytes_.fetch_add` -/
  | respond (buf : Bytes) (teardown : Bool)
  /-- `pushTCPFrame`: `outbox_bytes_.load` and the comparison with the watermark -/
  | checkFrame (frame : Bytes)
  /-- `pushTCPFrame`: `outbox_bytes_.fetch_add` -/
  | addFrame
  /-- `outbox_.push` -/
  | push
  /-- `enableWrite`: the compare-exchange -/
  | cas
  /-- `enableWrite`: `epoll_ctl` with EPOLLOUT -/
  | arm
  /-- `close_after_write_.store(true)` -/
  | storeClose
  /-- the Dispatcher gets an EPOLLOUT event -/
  | wake
  /-- the test of `wbuf_` and `outbox_.try_pop` -/
  | pop
  /-- `outbox_bytes_.load` -/
  | loadBytes
  /-- `outbox_bytes_.fetch_sub` -/
  | subBytes
  | send (r : Sent)
  /-- `epoll_ctl` without EPOLLOUT -/
  | disarm
  /-- `epollout_armed_.store(false)` -/
  | clear
  /-- `close_after_write_.load` -/
  | loadClose
  /-- a hang-up event, or `onReadable` returned false -/
  | hangup
  | closeSession
  deriving DecidableEq

/-- Where the worker goes when `enableWrite` returns. -/
def afterEnable (teardown : Bool) : WorkerPc := if teardown then .closing else .idle

/-- The worker's steps. -/
def workerStep (s : WriteState) : Act → Option WriteState
  | .respond buf teardown =>
      if s.worker = .idle then
        some { s with outboxBytes := (s.outboxBytes + buf.length) % 2 ^ 64
                      worker := .added buf teardown }
      else none
  | .checkFrame frame =>
      if s.worker = .idle then
        if kOutboxHWM < s.outboxBytes then some { s with worker := .closing }
        else some { s with worker := .checked frame }
      else none
  | .addFrame =>
      match s.worker with
      | .checked frame =>
          some { s with outboxBytes := (s.outboxBytes + frame.length) % 2 ^ 64
                        worker := .added frame false }
      | _ => none
  | .push =>
      match s.worker with
      | .added buf teardown =>
          some { s with outbox := s.outbox ++ [buf], worker := .pushed teardown }
      | _ => none
  | .cas =>
      match s.worker with
      | .pushed teardown =>
          if s.epolloutArmed then some { s with worker := afterEnable teardown }
          else some { s with epolloutArmed := true, worker := .arming teardown }
      | _ => none
  | .arm =>
      match s.worker with
      | .arming teardown =>
          -- the call fails without effect when the socket is no longer registered
          some { s with interest := s.interest.map fun _ => true, worker := afterEnable teardown }
      | _ => none
  | .storeClose =>
      if s.worker = .closing then some { s with closeAfterWrite := true, worker := .idle }
      else none
  | _ => none

/-- The rest of `wbuf_` that is not sent. -/
def remaining (s : WriteState) : Nat :=
  match s.wbuf with
  | none => 0
  | some buf => buf.length - s.woff

/-- `send` and what follows it in the loop. -/
def sendStep (s : WriteState) : Sent → Option WriteState
  | .bytes n =>
      if 0 < n ∧ n ≤ remaining s then
        if n = remaining s then some { s with wbuf := none, woff := 0, dispatcher := .top }
        else some { s with woff := s.woff + n, dispatcher := .top }
      else none
  | .zero => some { s with dispatcher := .failed }
  | .eagain => some { s with dispatcher := .idle }
  | .eintr => some { s with dispatcher := .top }
  | .error => some { s with dispatcher := .failed }

/-- The Dispatcher's steps. -/
def dispatcherStep (s : WriteState) : Act → Option WriteState
  | .wake =>
      if s.dispatcher = .idle ∧ s.interest = some true then some { s with dispatcher := .top }
      else none
  | .pop =>
      if s.dispatcher = .top then
        match s.wbuf with
        | some _ => some { s with dispatcher := .sending }
        | none =>
            match s.outbox with
            | [] => some { s with dispatcher := .emptied }
            | buf :: rest =>
                some { s with outbox := rest, wbuf := some buf, dispatcher := .popped }
      else none
  | .loadBytes =>
      if s.dispatcher = .popped then some { s with dispatcher := .loaded s.outboxBytes } else none
  | .subBytes =>
      match s.dispatcher, s.wbuf with
      | .loaded bytes, some buf =>
          some { s with
            outboxBytes := (s.outboxBytes + 2 ^ 64 - min buf.length bytes) % 2 ^ 64
            woff := 0
            dispatcher := .sending }
      | _, _ => none
  | .send r => if s.dispatcher = .sending then sendStep s r else none
  | .disarm =>
      if s.dispatcher = .emptied then
        some { s with interest := s.interest.map fun _ => false, dispatcher := .disarmed }
      else none
  | .clear =>
      if s.dispatcher = .disarmed then
        some { s with epolloutArmed := false, dispatcher := .cleared }
      else none
  | .loadClose =>
      if s.dispatcher = .cleared then
        some { s with dispatcher := if s.closeAfterWrite then .failed else .idle }
      else none
  | .hangup => if s.dispatcher = .idle then some { s with dispatcher := .failed } else none
  | .closeSession =>
      if s.dispatcher = .failed then some { s with interest := none, dispatcher := .closed }
      else none
  | _ => none

/-- One step of either thread. -/
def step (s : WriteState) (a : Act) : Option WriteState :=
  (workerStep s a).or (dispatcherStep s a)

/-- All that a step can do. -/
inductive Moves (s : WriteState) : Act → WriteState → Prop where
  | respond (buf : Bytes) (td : Bool) : s.worker = .idle →
      Moves s (.respond buf td) { s with
        outboxBytes := (s.outboxBytes + buf.length) % 2 ^ 64, worker := .added buf td }
  | overflow (frame : Bytes) : s.worker = .idle → kOutboxHWM < s.outboxBytes →
      Moves s (.checkFrame frame) { s with worker := .closing }
  | checkFrame (frame : Bytes) : s.worker = .idle → s.outboxBytes ≤ kOutboxHWM →
      Moves s (.checkFrame frame) { s with worker := .checked frame }
  | addFrame (frame : Bytes) : s.worker = .checked frame →
      Moves s .addFrame { s with
        outboxBytes := (s.outboxBytes + frame.length) % 2 ^ 64, worker := .added frame false }
  | push (buf : Bytes) (td : Bool) : s.worker = .added buf td →
      Moves s .push { s with outbox := s.outbox ++ [buf], worker := .pushed td }
  | casFails (td : Bool) : s.worker = .pushed td → s.epolloutArmed = true →
      Moves s .cas { s with worker := afterEnable td }
  | cas (td : Bool) : s.worker = .pushed td → s.epolloutArmed = false →
      Moves s .cas { s with epolloutArmed := true, worker := .arming td }
  | arm (td : Bool) : s.worker = .arming td →
      Moves s .arm { s with interest := s.interest.map fun _ => true, worker := afterEnable td }
  | storeClose : s.worker = .closing →
      Moves s .storeClose { s with closeAfterWrite := true, worker := .idle }
  | wake : s.dispatcher = .idle → s.interest = some true →
      Moves s .wake { s with dispatcher := .top }
  | popHeld (buf : Bytes) : s.dispatcher = .top → s.wbuf = some buf →
      Moves s .pop { s with dispatcher := .sending }
  | popEmpty : s.dispatcher = .top → s.wbuf = none → s.outbox = [] →
      Moves s .pop { s with dispatcher := .emptied }
  | pop (buf : Bytes) (rest : List Bytes) : s.dispatcher = .top → s.wbuf = none →
      s.outbox = buf :: rest →
      Moves s .pop { s with outbox := rest, wbuf := some buf, dispatcher := .popped }
  | loadBytes : s.dispatcher = .popped →
      Moves s .loadBytes { s with dispatcher := .loaded s.outboxBytes }
  | subBytes (bytes : Nat) (buf : Bytes) : s.dispatcher = .loaded bytes → s.wbuf = some buf →
      Moves s .subBytes { s with
        outboxBytes := (s.outboxBytes + 2 ^ 64 - min buf.length bytes) % 2 ^ 64
        woff := 0, dispatcher := .sending }
  | sendAll (n : Nat) : s.dispatcher = .sending → 0 < n → n = remaining s →
      Moves s (.send (.bytes n)) { s with wbuf := none, woff := 0, dispatcher := .top }
  | sendPart (n : Nat) : s.dispatcher = .sending → 0 < n → n < remaining s →
      Moves s (.send (.bytes n)) { s with woff := s.woff + n, dispatcher := .top }
  | sendFails (r : Sent) : s.dispatcher = .sending → r = .zero ∨ r = .error →
      Moves s (.send r) { s with dispatcher := .failed }
  | sendAgain : s.dispatcher = .sending → Moves s (.send .eagain) { s with dispatcher := .idle }
  | sendIntr : s.dispatcher = .sending → Moves s (.send .eintr) { s with dispatcher := .top }
  | disarm : s.dispatcher = .emptied →
      Moves s .disarm { s with
        interest := s.interest.map fun _ => false, dispatcher := .disarmed }
  | clear : s.dispatcher = .disarmed →
      Moves s .clear { s with epolloutArmed := false, dispatcher := .cleared }
  | closeAsked : s.dispatcher = .cleared → s.closeAfterWrite = true →
      Moves s .loadClose { s with dispatcher := .failed }
  | stayOpen : s.dispatcher = .cleared → s.closeAfterWrite = false →
      Moves s .loadClose { s with dispatcher := .idle }
  | hangup : s.dispatcher = .idle → Moves s .hangup { s with dispatcher := .failed }
  | closeSession : s.dispatcher = .failed →
      Moves s .closeSession { s with interest := none, dispatcher := .closed }

theorem moves_of_workerStep {s s' : WriteState} {a : Act} (h : workerStep s a = some s') :
    Moves s a s' := by
  unfold workerStep at h
  split at h
  all_goals (repeat' split at h)
  all_goals cases h
  · exact .respond _ _ ‹_›
  · exact .overflow _ ‹_› ‹_›
  · exact .checkFrame _ ‹_› (Nat.le_of_not_lt ‹_›)
  · exact .addFrame _ ‹_›
  · exact .push _ _ ‹_›
  · exact .casFails _ ‹_› ‹_›
  · exact .cas _ ‹_› (Bool.of_not_eq_true ‹_›)
  · exact .arm _ ‹_›
  · exact .storeClose ‹_›

theorem moves_of_sendStep {s s' : WriteState} {r : Sent} (hd : s.dispatcher = .sending)
    (h : sendStep s r = some s') : Moves s (.send r) s' := by
  unfold sendStep at h
  split at h
  all_goals (repeat' split at h)
  all_goals cases h
  · next hn heq => exact .sendAll _ hd hn.1 heq
  · next hn hne => exact .sendPart _ hd hn.1 (Nat.lt_of_le_of_ne hn.2 hne)
  · exact .sendFails _ hd (.inl rfl)
  · exact .sendAgain hd
  · exact .sendIntr hd
  · exact .sendFails _ hd (.inr rfl)

theorem moves_of_dispatcherStep {s s' : WriteState} {a : Act}
    (h : dispatcherStep s a = some s') : Moves s a s' := by
  unfold dispatcherStep at h
  split at h
  all_goals (repeat' split at h)
  case h_5.isTrue hd => exact moves_of_sendStep hd h
  all_goals cases h
  · next hw => exact .wake hw.1 hw.2
  · exact .popHeld _ ‹_› ‹_›
  · exact .popEmpty ‹_› ‹_› ‹_›
  · exact .pop _ _ ‹_› ‹_› ‹_›
  · exact .loadBytes ‹_›
  · exact .subBytes _ _ ‹_› ‹_›
  · exact .disarm ‹_›
  · exact .clear ‹_›
  · exact .closeAsked ‹_› ‹_›
  · exact .stayOpen ‹_› (Bool.of_not_eq_true ‹_›)
  · exact .hangup ‹_›
  · exact .closeSession ‹_›

theorem moves_of_step {s s' : WriteState} {a : Act} (h : step s a = some s') : Moves s a s' := by
  unfold step at h
  rcases Option.or_eq_some_iff.mp h with hw | ⟨_, hd⟩
  · exact moves_of_workerStep hw
  · exact moves_of_dispatcherStep hd

/-! ## The wake-up -/

/-- Bytes wait to be sent. -/
def Pending (s : WriteState) : Prop := s.outbox ≠ [] ∨ s.wbuf ≠ none

/-- Neither thread is inside one of the functions and the socket is still registered. -/
def Quiescent (s : WriteState) : Prop :=
  s.worker = .idle ∧ (s.dispatcher = .idle ∨ s.dispatcher = .failed)

/-- EPOLLOUT is asked for whenever bytes wait and both threads are outside. -/
def NoLostWakeup (s : WriteState) : Prop :=
  Quiescent s → Pending s → s.interest = some true

/-- The Dispatcher has found the outbox empty and has not cleared the flag yet. -/
def Disarming (s : WriteState) : Prop := s.dispatcher = .emptied ∨ s.dispatcher = .disarmed

/-- The condition on the steps: the compare-exchange does not fall, with a buffer queued,
    between the `try_pop` that found nothing and the store of the flag. -/
def CasOutsideDisarm (s : WriteState) (a : Act) : Prop :=
  a = .cas → ¬ (Disarming s ∧ s.outbox ≠ [])

instance (s : WriteState) : Decidable (Pending s) := inferInstanceAs (Decidable (_ ∨ _))
instance (s : WriteState) : Decidable (Quiescent s) := inferInstanceAs (Decidable (_ ∧ _))
instance (s : WriteState) : Decidable (Disarming s) := inferInstanceAs (Decidable (_ ∨ _))
instance (s : WriteState) (a : Act) : Decidable (CasOutsideDisarm s a) :=
  inferInstanceAs (Decidable (_ → _))
instance (s : WriteState) : Decidable (NoLostWakeup s) := inferInstanceAs (Decidable (_ → _))

/-- The Dispatcher is in the loop of `onWritable`. -/
def DispatcherPc.Draining : DispatcherPc → Prop
  | .top | .popped | .loaded _ | .sending | .emptied => True
  | _ => False

/-- The Dispatcher is outside of the loop and the socket is registered. -/
def DispatcherPc.Outside : DispatcherPc → Prop
  | .idle | .cleared | .failed => True
  | _ => False

def WorkerPc.Pushed : WorkerPc → Prop
  | .pushed _ => True
  | _ => False

def WorkerPc.Arming : WorkerPc → Prop
  | .arming _ => True
  | _ => False

theorem DispatcherPc.phase (d : DispatcherPc) :
    d.Draining ∨ d = .disarmed ∨ d.Outside ∨ d = .closed := by
  cases d <;> simp [Draining, Outside]

@[simp] theorem afterEnable_pushed (td : Bool) : ¬ (afterEnable td).Pushed := by
  cases td <;> simp [afterEnable, WorkerPc.Pushed]

@[simp] theorem afterEnable_arming (td : Bool) : ¬ (afterEnable td).Arming := by
  cases td <;> simp [afterEnable, WorkerPc.Arming]

/-- What holds in every state as long as the compare-exchanges fall outside of the disarming. -/
structure Armed (s : WriteState) : Prop where
  /-- inside the loop EPOLLOUT is asked for and the flag says so -/
  draining : s.dispatcher.Draining → s.interest = some true ∧ s.epolloutArmed = true
  /-- between the two disarming steps the flag still says so -/
  disarmed : s.dispatcher = .disarmed → s.interest = some false ∧ s.epolloutArmed = true
  /-- outside, the flag says that EPOLLOUT is or will be asked for -/
  outside : s.dispatcher.Outside → s.interest ≠ none ∧
    (s.epolloutArmed = true ↔ s.interest = some true ∨ s.worker.Arming)
  /-- a successful compare-exchange is made while the Dispatcher cannot enter the loop -/
  arming : s.worker.Arming →
    s.dispatcher.Outside ∧ s.interest ≠ some true ∨ s.dispatcher = .closed
  /-- what was pushed after the failing `try_pop` still has its compare-exchange to come -/
  disarming : Disarming s → s.wbuf = none ∧ (s.outbox ≠ [] → s.worker.Pushed)
  pending : s.dispatcher.Outside → Pending s →
    s.interest = some true ∨ s.worker.Arming ∨ s.worker.Pushed

theorem armed_init : Armed init := by
  constructor <;> simp [init, Disarming, Pending, DispatcherPc.Draining, WorkerPc.Arming]

/-- The compare-exchange. It succeeds only outside of the loop, where it announces the
    `epoll_ctl`; where it fails, EPOLLOUT is asked for or nothing is queued. -/
theorem armed_cas {s : WriteState} {td : Bool} (hI : Armed s) (hC : CasOutsideDisarm s .cas)
    (hw : s.worker = .pushed td) :
    (s.epolloutArmed = true → Armed { s with worker := afterEnable td }) ∧
    (s.epolloutArmed = false →
      Armed { s with epolloutArmed := true, worker := .arming td }) := by
  obtain ⟨hdrain, hdis, hout, harm, hding, hpend⟩ := hI
  have hph := s.dispatcher.phase
  have hempty : Disarming s → s.outbox = [] := fun hd => by
    by_contra hne
    exact hC rfl ⟨hd, hne⟩
  have hna : ¬ s.worker.Arming := by rw [hw]; exact id
  simp only [hna, or_false] at hout
  constructor
  · intro harmed
    refine ⟨hdrain, hdis, ?_, ?_, ?_, ?_⟩
    · intro ho
      simpa only [afterEnable_arming, or_false] using hout ho
    · intro h
      exact absurd h (afterEnable_arming td)
    · intro hd
      exact ⟨(hding hd).1, fun hne => absurd (hempty hd) hne⟩
    · intro ho _
      exact .inl ((hout ho).2.mp harmed)
  · intro hfree
    have ho : s.dispatcher.Outside ∧ s.interest ≠ some true ∨ s.dispatcher = .closed := by
      rcases hph with h | h | h | h
      · rw [(hdrain h).2] at hfree; cases hfree
      · rw [(hdis h).2] at hfree; cases hfree
      · exact .inl ⟨h, fun he => by rw [(hout h).2.mpr he] at hfree; cases hfree⟩
      · exact .inr h
    refine ⟨?_, ?_, ?_, fun _ => ho, ?_, fun _ _ => .inr (.inl trivial)⟩
    · intro h
      rw [(hdrain h).2] at hfree; cases hfree
    · intro h
      rw [(hdis h).2] at hfree; cases hfree
    · intro h
      exact ⟨(hout h).1, by simp [WorkerPc.Arming]⟩
    · intro hd
      exact ⟨(hding hd).1, fun hne => absurd (hempty hd) hne⟩

/-- The `epoll_ctl` of `enableWrite` makes true what the flag announced. -/
theorem armed_arm {s : WriteState} {td : Bool} (hI : Armed s) (hw : s.worker = .arming td) :
    Armed { s with interest := s.interest.map fun _ => true, worker := afterEnable td } := by
  have ha : s.worker.Arming := by rw [hw]; trivial
  have hasked : s.dispatcher.Outside → s.interest.map (fun _ => true) = some true := fun ho => by
    obtain ⟨b, hb⟩ := Option.ne_none_iff_exists'.mp (hI.outside ho).1
    rw [hb, Option.map_some]
  have hnot : ¬ s.dispatcher.Draining ∧ s.dispatcher ≠ .disarmed ∧ ¬ Disarming s := by
    unfold Disarming
    rcases hI.arming ha with ⟨ho, -⟩ | ho
    · cases hd : s.dispatcher <;> simp_all [DispatcherPc.Outside, DispatcherPc.Draining]
    · simp [ho, DispatcherPc.Draining]
  refine ⟨fun h => absurd h hnot.1, fun h => absurd h hnot.2.1, ?_,
    fun h => absurd h (afterEnable_arming td), fun h => absurd h hnot.2.2,
    fun ho _ => .inl (hasked ho)⟩
  intro ho
  have harmed := (hI.outside ho).2.mpr (.inr ha)
  simp only [hasked ho, harmed, ne_eq, reduceCtorEq, not_false_eq_true, true_or, and_self]

theorem armed_step {s s' : WriteState} {a : Act} (hI : Armed s) (hC : CasOutsideDisarm s a)
    (h : step s a = some s') : Armed s' := by
  cases moves_of_step h
  case casFails td hw harmed => exact (armed_cas hI hC hw).1 harmed
  case cas td hw hfree => exact (armed_cas hI hC hw).2 hfree
  case arm td hw => exact armed_arm hI hw
  -- the other steps move one of the two threads to the next row of the invariant
  all_goals
    obtain ⟨hdrain, hdis, hout, harm, hding, hpend⟩ := hI
    clear hC h
    constructor
    all_goals
      grind [Disarming, Pending, WorkerPc.Arming, WorkerPc.Pushed, DispatcherPc.Draining,
        DispatcherPc.Outside]

theorem armed_of_run {as : List Act} {s : WriteState}
    (hC : Lts.Along step CasOutsideDisarm init as) (h : Lts.run step init as = some s) :
    Armed s :=
  Lts.run_invariant (fun _ _ _ hI hC h => armed_step hI hC h) armed_init hC h

/-- **No wake-up is lost** in a run whose compare-exchanges fall outside of the disarming: in
    every state it reaches with both threads outside of their functions, EPOLLOUT is asked for
    when bytes wait. -/
theorem noLostWakeup_of_run {as : List Act} {s : WriteState}
    (hC : Lts.Along step CasOutsideDisarm init as) (h : Lts.run step init as = some s) :
    NoLostWakeup s := by
  intro hq hp
  have hI := armed_of_run hC h
  have ho : s.dispatcher.Outside := by
    rcases hq.2 with hd | hd <;> rw [hd] <;> trivial
  rcases hI.pending ho hp with h | h | h
  · exact h
  · rw [hq.1] at h; exact h.elim
  · rw [hq.1] at h; exact h.elim

/-- A worker whose compare-exchange fails leaves its function. -/
theorem run_worker_leaves {s : WriteState} {td : Bool} (hw : s.worker = .pushed td)
    (harmed : s.epolloutArmed = true) :
    ∃ bs, Lts.run step s (.cas :: bs) =
      some { s with worker := .idle, closeAfterWrite := s.closeAfterWrite || td } := by
  cases td with
  | false => exact ⟨[], by simp [Lts.run, step, workerStep, afterEnable, hw, harmed]⟩
  | true => exact ⟨[.storeClose], by simp [Lts.run, step, workerStep, afterEnable, hw, harmed]⟩

/-- A Dispatcher that has found the outbox empty disarms, clears the flag and leaves. -/
theorem run_dispatcher_leaves {s : WriteState}
    (hd : s.dispatcher = .emptied ∧ s.interest = some true ∨
      s.dispatcher = .disarmed ∧ s.interest = some false) :
    ∃ bs, Lts.run step s bs = some { s with
      interest := some false, epolloutArmed := false
      dispatcher := if s.closeAfterWrite then .failed else .idle } := by
  have hclear : ∀ u : WriteState, u.dispatcher = .disarmed → u.interest = some false →
      Lts.run step u [.clear, .loadClose] = some { u with
        interest := some false, epolloutArmed := false
        dispatcher := if u.closeAfterWrite then .failed else .idle } := by
    intro u hu hi
    simp [Lts.run, step, workerStep, dispatcherStep, hu, hi]
  rcases hd with ⟨hd, hi⟩ | ⟨hd, hi⟩
  · have hs : step s .disarm = some { s with interest := some false, dispatcher := .disarmed } := by
      simp [step, workerStep, dispatcherStep, hd, hi]
    exact ⟨[.disarm, .clear, .loadClose], Lts.run_cons_of hs (hclear _ rfl rfl)⟩
  · exact ⟨[.clear, .loadClose], hclear s hd hi⟩

/-- The condition cannot be dropped: a run up to a compare-exchange that falls inside of the
    disarming, with a buffer queued, can be continued to a state with a lost wake-up. -/
theorem lostWakeup_of_cas {as : List Act} {s : WriteState}
    (hC : Lts.Along step CasOutsideDisarm init as) (h : Lts.run step init as = some s)
    (hp : s.worker.Pushed) (hd : Disarming s) (hne : s.outbox ≠ []) :
    ∃ bs t, Lts.run step s (.cas :: bs) = some t ∧ ¬ NoLostWakeup t := by
  have hI := armed_of_run hC h
  obtain ⟨td, hw⟩ : ∃ td, s.worker = .pushed td := by
    cases hw : s.worker <;> simp_all [WorkerPc.Pushed]
  have hphase : s.epolloutArmed = true ∧
      (s.dispatcher = .emptied ∧ s.interest = some true ∨
        s.dispatcher = .disarmed ∧ s.interest = some false) := by
    rcases hd with hd | hd
    · obtain ⟨hi, ha⟩ := hI.draining (by rw [hd]; trivial)
      exact ⟨ha, .inl ⟨hd, hi⟩⟩
    · obtain ⟨hi, ha⟩ := hI.disarmed hd
      exact ⟨ha, .inr ⟨hd, hi⟩⟩
  obtain ⟨bs, hbs⟩ := run_worker_leaves hw hphase.1
  obtain ⟨cs, hcs⟩ := run_dispatcher_leaves (s := { s with
    worker := .idle, closeAfterWrite := s.closeAfterWrite || td }) hphase.2
  refine ⟨bs ++ cs, _, Lts.run_append.mpr ⟨_, hbs, hcs⟩, ?_⟩
  intro hno
  have hasked := hno ⟨rfl, by cases s.closeAfterWrite || td <;> simp⟩ (.inl hne)
  cases hasked

def okResponse : Bytes := ascii "RTSP/1.0 200 OK\r\nServer: RTSP-Server/1.0\r\nCSeq: 1\r\n\r\n"

/-- One response is sent and the Dispatcher finds the outbox empty. -/
def drainRun : List Act :=
  [.respond okResponse false, .push, .cas, .arm, .wake, .pop, .loadBytes, .subBytes,
    .send (.bytes okResponse.length), .pop]

/-- The next response is pushed before the Dispatcher disarms. -/
def lostRun : List Act :=
  drainRun ++ [.respond okResponse false, .push, .cas, .disarm, .clear, .loadClose]

/-- The Dispatcher leaves in time; the response pushed after that arms again. -/
def keptRun : List Act :=
  drainRun ++ [.disarm, .clear, .loadClose, .respond okResponse false, .push, .cas, .arm]

theorem noLostWakeup_of_run_kept :
    ∃ s, Lts.run step init keptRun = some s ∧ Quiescent s ∧ Pending s ∧ NoLostWakeup s := by
  have hC : Lts.Along step CasOutsideDisarm init keptRun := by decide +kernel
  exact ⟨_, rfl, by decide +kernel, by decide +kernel, noLostWakeup_of_run hC rfl⟩

theorem lostRun_loses_wakeup : ∃ s, Lts.run step init lostRun = some s ∧ ¬ NoLostWakeup s :=
  ⟨_, rfl, by decide +kernel⟩

end RtspServer.WriteWake
