/-
  Model of the life of a `Reactor`: `run()` from `running_.store(true)` on, `stop()`, and the
  outer loops of `dispatcherLoop`, `logicLoop` and `pacerLoop` with the descriptors and stop
  tokens that end them. What the threads do with sessions inside these loops are the steps of
  `Routing`; the pool is that of `ThreadPool`, with the pacer and the thread in `run()` as its
  callers.

  A step of the Dispatcher inside `onReadable`, or of a worker inside `pacerTick`, stands for a
  call that returns. `stop()` may be called by any thread at any time, and the pacer's
  `epoll_wait` may return at any time, for its timer or for `pacer_efd_`. The Dispatcher may go on
  accepting where the test of `running_` in `acceptClient` would have ended that loop, and the
  pacer may skip any session: whether its slot is taken is the matter of `PacerSlot`. The
  destructor of a session is the last `drop` of a reference, as in `Routing`; the pool's
  references there are those of the pacer's snapshot and of the tasks.
-/
import RtspServer.Server.Releases
import RtspServer.Server.LogicWake
import RtspServer.Utils.PoolClosing
import Mathlib.Data.List.Perm.Basic

namespace RtspServer.Lifecycle

open Routing (RouteState efdMax)
open ThreadPool (PoolState PoolAct Doing)

/-! ## State -/

/-- The threads that call the pool from outside. -/
inductive Caller where
  | main
  | pacer
  deriving DecidableEq

instance : Fintype Caller :=
  ⟨{.main, .pacer}, fun c => by cases c <;> decide⟩

/-- A descriptor that ends `dispatcherLoop`: `wake_fd_` or `signal_fd_`. -/
inductive Control where
  | wake
  | signal
  deriving DecidableEq

/-- Where `run()` is. -/
inductive MainPc where
  /-- the sockets are made, `running_.store(true)` is next -/
  | preparing
  | spawnLogic
  | spawnPacer
  | spawnDispatcher
  | joinDispatcher
  /-- `logic_thread_.request_stop()` is next -/
  | stopLogic
  | stopPacer
  /-- the write to `logic_efd_` is next -/
  | wakeLogic
  | joinLogic
  | joinPacer
  /-- `pacer_pool_.shutdown()` is next -/
  | shutPool
  | shuttingPool
  /-- `sessions_.clear()` -/
  | clearing
  | returned
  deriving DecidableEq

/-- Where `dispatcherLoop` is. -/
inductive DispatcherPc where
  | absent
  /-- `running_.load` is next -/
  | testing
  /-- in `epoll_wait` -/
  | waiting
  /-- in the loop over the events, with the event that will end it -/
  | handling (control : Option Control)
  /-- `running_.store(false)` is next -/
  | stopping
  | exited
  deriving DecidableEq

/-- Where `logicLoop` is. -/
inductive LogicPc where
  | absent
  | testing
  /-- in the read of `logic_efd_` -/
  | reading
  /-- the read has returned, `stop_requested` is next -/
  | woken
  | draining
  | exited
  deriving DecidableEq

/-- Where `pacerLoop` is. -/
inductive PacerPc where
  | absent
  | testing
  /-- in `epoll_wait` -/
  | waiting
  | woken
  /-- `stop_requested` was false, the snapshot is next -/
  | collecting
  /-- these sessions of the snapshot are left -/
  | ticking (rest : List Nat)
  /-- in `pacer_pool_.submit` -/
  | submitting (rest : List Nat)
  /-- the snapshot goes out of scope -/
  | releasing
  | exited
  deriving DecidableEq

structure LifeState (R : Type) (N : Nat) where
  running : Bool
  wakeFd : Nat
  /-- the calls of `stop()` whose write to `wake_fd_` is next -/
  owesWake : Nat
  /-- `signal_fd_` has a signal -/
  signal : Bool
  logicEfd : Nat
  /-- the Dispatcher has pushed, its write to `logic_efd_` is next -/
  owesLogic : Bool
  main : MainPc
  dispatcher : DispatcherPc
  logic : LogicPc
  logicStop : Bool
  pacer : PacerPc
  pacerStop : Bool
  /-- the pacer's snapshot -/
  active : List Nat
  route : RouteState R
  pool : PoolState N Caller
  /-- the session of each task -/
  owner : Nat → Nat

variable {R : Type} {N : Nat}

def init : LifeState R N :=
  { running := false, wakeFd := 0, owesWake := 0, signal := false, logicEfd := 0
    owesLogic := false, main := .preparing, dispatcher := .absent, logic := .absent
    logicStop := false, pacer := .absent, pacerStop := false, active := []
    route := Routing.init, pool := ThreadPool.init, owner := fun _ => 0 }

/-! ## Steps -/

inductive Act (R : Type) (N : Nat) where
  /-- the next step of `run()` -/
  | main
  /-- `stop()`: `running_.exchange(false)` -/
  | stop
  /-- `stop()`: the write to `wake_fd_` -/
  | wake
  /-- SIGINT or SIGTERM -/
  | signal
  /-- Dispatcher: `running_.load` -/
  | testRunning
  /-- `epoll_wait` returns, with an event of this descriptor or only with others -/
  | events (control : Option Control)
  /-- `epoll_wait` fails with `EINTR` or otherwise -/
  | epollFails (interrupted : Bool)
  /-- the event that ends the loop -/
  | asked
  | storeStopped
  /-- the Dispatcher's work on an event -/
  | serve (a : Routing.Act R)
  /-- the write to `logic_efd_` after a push -/
  | notifyLogic
  /-- all events are handled -/
  | handled
  /-- Logic: `stop_requested` at the top of the loop -/
  | testLogic
  | readLogic
  /-- the read fails with `EINTR` -/
  | logicInterrupted
  /-- Logic: `stop_requested` after the read -/
  | wokenLogic
  | work (a : Routing.Act R)
  /-- `try_pop` returns nothing -/
  | drained
  | testPacer
  /-- the pacer's `epoll_wait` returns -/
  | tick
  | pacerFails (interrupted : Bool)
  | wokenPacer
  /-- the snapshot of `sessions_`, in the order of the hash table -/
  | snapshot (order : List Nat)
  /-- `tryClaimPacerTick` returns false -/
  | skip
  | submit
  /-- `submit` has returned -/
  | submitted
  /-- the loop over the snapshot is over -/
  | looped
  /-- the snapshot drops a reference -/
  | forget
  | released
  /-- a step inside the pool -/
  | pool (a : PoolAct N Caller)
  /-- a task is over, and drops its reference -/
  | finish (w : Fin N) (exception : Bool)

/-- `sessions_.clear()` destroys one entry after the other. -/
def clearNext (r : RouteState R) : Option (RouteState R) :=
  match r.sessions.entries with
  | [] => none
  | e :: _ => some (Routing.drop { r with sessions := r.sessions.erase e.1 } e.2)

/-- `run()`. -/
def mainStep (s : LifeState R N) : Option (LifeState R N) :=
  match s.main with
  | .preparing => some { s with running := true, main := .spawnLogic }
  | .spawnLogic => some { s with logic := .testing, main := .spawnPacer }
  | .spawnPacer => some { s with pacer := .testing, main := .spawnDispatcher }
  | .spawnDispatcher => some { s with dispatcher := .testing, main := .joinDispatcher }
  | .joinDispatcher => if s.dispatcher = .exited then some { s with main := .stopLogic } else none
  | .stopLogic => some { s with logicStop := true, main := .stopPacer }
  | .stopPacer => some { s with pacerStop := true, main := .wakeLogic }
  | .wakeLogic =>
      -- a write that would overflow blocks
      if s.logicEfd < efdMax then some { s with logicEfd := s.logicEfd + 1, main := .joinLogic }
      else none
  | .joinLogic => if s.logic = .exited then some { s with main := .joinPacer } else none
  | .joinPacer => if s.pacer = .exited then some { s with main := .shutPool } else none
  | .shutPool =>
      (ThreadPool.step s.pool (.shutdown .main)).map fun p =>
        { s with pool := p, main := .shuttingPool }
  | .shuttingPool =>
      if s.pool.doing (.inr .main) = .shutDown then some { s with main := .clearing } else none
  | .clearing =>
      match clearNext s.route with
      | some r => some { s with route := r }
      | none => some { s with main := .returned }
  | .returned => none

/-- The steps of `Routing` that the Dispatcher makes. -/
def isServe : Routing.Act R → Bool
  | .accept _ | .emplace | .register _ | .find _ | .read _ | .push | .close _ | .leave => true
  | .pop | .route | .pushCommand | .logicLeave | .acquire _ | .release _ => false

/-- The steps of `Routing` that the Logic thread makes. -/
def isWork : Routing.Act R → Bool
  | .pop | .route | .pushCommand | .logicLeave => true
  | .accept _ | .emplace | .register _ | .find _ | .read _ | .push | .close _ | .leave
  | .acquire _ | .release _ => false

/-- The Dispatcher is between two events. -/
def between (s : LifeState R N) : Bool :=
  match s.route.dispatcher with
  | .idle => !s.owesLogic
  | _ => false

/-- The event is there for `epoll_wait` to report. -/
def raised (s : LifeState R N) : Option Control → Bool
  | none => true
  | some .wake => 0 < s.wakeFd
  | some .signal => s.signal

def dispatcherStep (s : LifeState R N) : Act R N → Option (LifeState R N)
  | .testRunning =>
      if s.dispatcher = .testing then
        some { s with dispatcher := if s.running then .waiting else .exited }
      else none
  | .events control =>
      if s.dispatcher = .waiting ∧ raised s control then
        some { s with dispatcher := .handling control }
      else none
  | .epollFails interrupted =>
      if s.dispatcher = .waiting then
        some { s with dispatcher := if interrupted then .testing else .exited }
      else none
  | .asked =>
      match s.dispatcher with
      | .handling (some control) =>
          if between s then
            -- only a signal is read
            some { s with signal := s.signal && control ≠ .signal, dispatcher := .stopping }
          else none
      | _ => none
  | .storeStopped =>
      if s.dispatcher = .stopping then some { s with running := false, dispatcher := .exited }
      else none
  | .serve a =>
      match s.dispatcher with
      | .handling _ =>
          if isServe a ∧ !s.owesLogic then
            (Routing.step s.route a).map fun r => { s with route := r, owesLogic := a.isPush }
          else none
      | _ => none
  | .notifyLogic =>
      if s.owesLogic ∧ s.logicEfd < efdMax then
        some { s with logicEfd := s.logicEfd + 1, owesLogic := false }
      else none
  | .handled =>
      if s.dispatcher = .handling none ∧ between s then some { s with dispatcher := .testing }
      else none
  | _ => none

def logicStep (s : LifeState R N) : Act R N → Option (LifeState R N)
  | .testLogic =>
      if s.logic = .testing then
        some { s with logic := if s.logicStop then .exited else .reading }
      else none
  | .readLogic =>
      -- a read of a zero counter blocks
      if s.logic = .reading ∧ 0 < s.logicEfd then some { s with logicEfd := 0, logic := .woken }
      else none
  | .logicInterrupted =>
      if s.logic = .reading then some { s with logic := .testing } else none
  | .wokenLogic =>
      if s.logic = .woken then
        some { s with logic := if s.logicStop then .exited else .draining }
      else none
  | .work a =>
      if s.logic = .draining ∧ isWork a then
        (Routing.step s.route a).map fun r => { s with route := r }
      else none
  | .drained =>
      match s.logic, s.route.logic, s.route.cmdQueue with
      | .draining, .idle, [] => some { s with logic := .testing }
      | _, _, _ => none
  | _ => none

/-- The pacer submits a task that refers to the session. -/
def submitTask (s : LifeState R N) (sid : Nat) (rest : List Nat) : Option (LifeState R N) :=
  if sid ∈ s.route.pool then
    (ThreadPool.step s.pool (.submit (.inr .pacer))).map fun p =>
      { s with
        pool := p, owner := Function.update s.owner s.pool.next sid
        route := { s.route with pool := sid :: s.route.pool }, pacer := .submitting rest }
  else none

def pacerStep (s : LifeState R N) : Act R N → Option (LifeState R N)
  | .testPacer =>
      if s.pacer = .testing then
        some { s with pacer := if s.pacerStop then .exited else .waiting }
      else none
  | .tick => if s.pacer = .waiting then some { s with pacer := .woken } else none
  | .pacerFails interrupted =>
      if s.pacer = .waiting then
        some { s with pacer := if interrupted then .testing else .exited }
      else none
  | .wokenPacer =>
      if s.pacer = .woken then
        some { s with pacer := if s.pacerStop then .exited else .collecting }
      else none
  | .snapshot order =>
      if s.pacer = .collecting ∧ order.Perm (s.route.sessions.entries.map (·.2)) then
        some { s with
          active := order, route := { s.route with pool := order ++ s.route.pool }
          pacer := .ticking order }
      else none
  | .skip =>
      match s.pacer with
      | .ticking (_ :: rest) => some { s with pacer := .ticking rest }
      | _ => none
  | .submit =>
      match s.pacer with
      | .ticking (sid :: rest) => submitTask s sid rest
      | _ => none
  | .submitted =>
      match s.pacer with
      | .submitting rest =>
          if s.pool.doing (.inr .pacer) = .free then some { s with pacer := .ticking rest }
          else none
      | _ => none
  | .looped => if s.pacer = .ticking [] then some { s with pacer := .releasing } else none
  | .forget =>
      match s.pacer, s.active with
      | .releasing, sid :: rest =>
          (Routing.step s.route (.release sid)).map fun r => { s with route := r, active := rest }
      | _, _ => none
  | .released =>
      match s.pacer, s.active with
      | .releasing, [] => some { s with pacer := .testing }
      | _, _ => none
  | _ => none

/-- A task submits nothing. -/
def poolStep (s : LifeState R N) : Act R N → Option (LifeState R N)
  | .pool a =>
      if a.isInside then (ThreadPool.step s.pool a).map fun p => { s with pool := p } else none
  | .finish w exception =>
      match s.pool.doing (.inl w) with
      | .running task =>
          match ThreadPool.step s.pool (.finish w exception),
            Routing.step s.route (.release (s.owner task)) with
          | some p, some r => some { s with pool := p, route := r }
          | _, _ => none
      | _ => none
  | _ => none

/-- `stop()` and the signals. -/
def outsideStep (s : LifeState R N) : Act R N → Option (LifeState R N)
  | .stop =>
      some { s with running := false, owesWake := if s.running then s.owesWake + 1 else s.owesWake }
  | .wake =>
      if 0 < s.owesWake then
        -- `EFD_NONBLOCK`: a write that would overflow fails
        some { s with wakeFd := min (s.wakeFd + 1) efdMax, owesWake := s.owesWake - 1 }
      else none
  | .signal => some { s with signal := true }
  | _ => none

def step (s : LifeState R N) (a : Act R N) : Option (LifeState R N) :=
  match a with
  | .main => mainStep s
  | a => ((((outsideStep s a).or (dispatcherStep s a)).or (logicStep s a)).or
      (pacerStep s a)).or (poolStep s a)

end RtspServer.Lifecycle
