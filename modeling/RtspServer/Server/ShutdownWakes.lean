/-
  Whether the server can hang on its way down. `Stuck` is a state in which no thread can go on by
  itself: the outside world (a `stop()`, a signal, an event of a client, the pacer's timer, an
  interrupted call) is what is missing. `Signalled` says why no wake-up is lost: `running_` is
  false only when `wake_fd_` is readable or about to be, and the Logic thread is asked to stop
  before `logic_efd_` is written.

  `shutdown_not_stuck`: a stuck server is up and waits for events, or waits for the pacer's timer
  before it can join the pacer, or is down. The one way to hang is the write of `run()` to a
  `logic_efd_` that is full, when the Logic thread has left without reading it.
-/
import RtspServer.Server.Shutdown

namespace RtspServer.Lifecycle

open Routing (RouteState efdMax)
open ThreadPool (PoolState PoolAct Doing unfinished)

variable {R : Type} {N : Nat}

/-! ## The wake-ups -/

/-- What holds of the wake-ups in every state. -/
structure Signalled (s : LifeState R N) : Prop where
  asked : s.running = false →
    s.main.rank = 0 ∨ 0 < s.wakeFd ∨ 0 < s.owesWake ∨ s.dispatcher = .exited
  logicWoken : s.main.rank = 8 → s.logic = .reading → 0 < s.logicEfd
  logicLast : s.logic = .exited → 6 ≤ s.main.rank

theorem signalled_init : Signalled (init : LifeState R N) :=
  ⟨fun _ => .inl rfl, (fun h => nomatch h), (fun h => nomatch h)⟩

theorem efdMax_pos : 0 < efdMax := by decide

theorem signalled_outside {s s' : LifeState R N} {a : Act R N} (hS : Signalled s)
    (h : outsideStep s a = some s') : Signalled s' := by
  unfold outsideStep at h
  split at h
  · cases h
    refine { hS with asked := fun _ => ?_ }
    show _ ∨ _ ∨ 0 < (if s.running then s.owesWake + 1 else s.owesWake) ∨ _
    cases hrun : s.running with
    | true => exact .inr (.inr (.inl (Nat.succ_pos _)))
    | false => exact hS.asked hrun
  · split at h
    · cases h
      refine { hS with asked := fun _ => .inr (.inl ?_) }
      exact Nat.lt_min.mpr ⟨Nat.succ_pos _, efdMax_pos⟩
    · cases h
  · cases h
    exact { hS with }
  · cases h

/-- The Dispatcher that has not left goes on. -/
theorem signalled_dispatcher {s : LifeState R N} (hS : Signalled s) {d : DispatcherPc}
    (hd : s.dispatcher ≠ .exited) : Signalled { s with dispatcher := d } where
  asked h := by
    rcases hS.asked h with h | h | h | h
    · exact .inl h
    · exact .inr (.inl h)
    · exact .inr (.inr (.inl h))
    · exact absurd h hd
  logicWoken := hS.logicWoken
  logicLast := hS.logicLast

theorem signalled_dispatcherStep {s s' : LifeState R N} {a : Act R N} (hS : Signalled s)
    (h : dispatcherStep s a = some s') : Signalled s' := by
  unfold dispatcherStep at h
  split at h
  · split at h
    · next hd =>
        cases h
        exact signalled_dispatcher hS (by simp [hd])
    · cases h
  · split at h
    · next hd =>
        cases h
        exact signalled_dispatcher hS (by simp [hd.1])
    · cases h
  · split at h
    · next hd =>
        cases h
        exact signalled_dispatcher hS (by simp [hd])
    · cases h
  · split at h
    · next hd =>
        split at h
        · cases h
          have hstop : Signalled { s with dispatcher := .stopping } :=
            signalled_dispatcher hS (by simp [hd])
          exact { hstop with }
        · cases h
    · cases h
  · split at h
    · cases h
      exact { hS with asked := fun _ => .inr (.inr (.inr rfl)) }
    · cases h
  · split at h
    · split at h
      · obtain ⟨r, -, rfl⟩ := Option.map_eq_some_iff.mp h
        exact { hS with }
      · cases h
    · cases h
  · split at h
    · cases h
      exact { hS with logicWoken := fun _ _ => Nat.succ_pos _ }
    · cases h
  · split at h
    · next hd =>
        cases h
        exact signalled_dispatcher hS (by simp [hd.1])
    · cases h
  · cases h

/-- The Logic thread leaves only when it is asked to, and reads only when it is not. -/
theorem signalled_logic {s : LifeState R N} (hS : Signalled s) {l : LogicPc} {efd : Nat}
    (hreads : s.main.rank = 8 → l ≠ .reading) (hlast : l = .exited → 6 ≤ s.main.rank) :
    Signalled { s with logic := l, logicEfd := efd } where
  asked := hS.asked
  logicWoken h hl := absurd hl (hreads h)
  logicLast := hlast

theorem signalled_logicStep {s s' : LifeState R N} {a : Act R N} (hI : Alive s)
    (hS : Signalled s) (h : logicStep s a = some s') : Signalled s' := by
  have hstop := hI.logicStop
  unfold logicStep at h
  split at h
  · split at h
    · cases h
      refine signalled_logic hS (fun h => ?_) fun h => ?_
      · rw [if_pos (hstop.mpr (by omega))]
        exact fun h => nomatch h
      · split at h
        · next hs => exact hstop.mp hs
        · cases h
    · cases h
  · split at h
    · cases h
      exact signalled_logic hS (fun _ h => nomatch h) fun h => nomatch h
    · cases h
  · split at h
    · cases h
      exact signalled_logic hS (fun _ h => nomatch h) fun h => nomatch h
    · cases h
  · split at h
    · cases h
      refine signalled_logic hS (fun _ h => ?_) fun h => ?_
      · split at h <;> cases h
      · split at h
        · next hs => exact hstop.mp hs
        · cases h
    · cases h
  · split at h
    · obtain ⟨r, -, rfl⟩ := Option.map_eq_some_iff.mp h
      exact { hS with }
    · cases h
  · split at h
    · cases h
      exact signalled_logic hS (fun _ h => nomatch h) fun h => nomatch h
    · cases h
  · cases h

theorem signalled_pacerStep {s s' : LifeState R N} {a : Act R N} (hS : Signalled s)
    (h : pacerStep s a = some s') : Signalled s' := by
  unfold pacerStep submitTask at h
  repeat' split at h
  all_goals first
    | (cases h; exact { hS with })
    | (obtain ⟨_, -, rfl⟩ := Option.map_eq_some_iff.mp h; exact { hS with })
    | cases h

theorem signalled_poolStep {s s' : LifeState R N} {a : Act R N} (hS : Signalled s)
    (h : poolStep s a = some s') : Signalled s' := by
  unfold poolStep at h
  repeat' split at h
  all_goals first
    | (cases h; exact { hS with })
    | (obtain ⟨_, -, rfl⟩ := Option.map_eq_some_iff.mp h; exact { hS with })
    | cases h

theorem signalled_mainStep {s s' : LifeState R N} (hI : Alive s) (hS : Signalled s)
    (h : mainStep s = some s') : Signalled s' := by
  rcases mainStep_cases h with ⟨m, hm, hpool, hj, rfl⟩ | ⟨hm, p, hp, rfl⟩ | ⟨hm, r, hr, rfl⟩
  · constructor
    · intro hrun
      obtain ⟨hrun, hfirst⟩ : s.running = false ∧ s.main ≠ .preparing := by
        simpa [advance] using hrun
      right
      rcases hS.asked hrun with h | h | h | h
      · have hpreparing : s.main = .preparing := rank_inj h
        exact absurd hpreparing hfirst
      · exact .inl h
      · exact .inr (.inl h)
      · refine .inr (.inr ?_)
        have hrank : ¬ s.main.rank < 4 := fun hlt => by
          rw [hI.dispatcherStarts.mpr hlt] at h
          cases h
        show (if s.main = .spawnDispatcher then .testing else s.dispatcher) = .exited
        rw [if_neg fun hs => hrank (by rw [hs]; decide), h]
    · intro height _
      have hwake : s.main = .wakeLogic := rank_inj (by
        show s.main.rank = 7
        have : m.rank = 8 := height
        omega)
      show 0 < if s.main = .wakeLogic then s.logicEfd + 1 else s.logicEfd
      rw [if_pos hwake]
      exact Nat.succ_pos _
    · intro hl
      change (if s.main = .spawnLogic then .testing else s.logic) = .exited at hl
      split at hl
      · cases hl
      · have := hS.logicLast hl
        show 6 ≤ m.rank
        omega
  · exact { hS with
      asked := fun _ => .inr (.inr (.inr (hI.dispatcherEnds (by rw [hm]; decide))))
      logicWoken := fun h => absurd (show 11 = 8 from h) (by decide)
      logicLast := fun _ => show 6 ≤ 11 by decide }
  · exact { hS with }

theorem signalled_step {s s' : LifeState R N} {a : Act R N} (hI : Alive s) (hS : Signalled s)
    (h : step s a = some s') : Signalled s' := by
  unfold step at h
  split at h
  · exact signalled_mainStep hI hS h
  · rcases Option.or_eq_some_iff.mp h with h | ⟨-, h⟩
    · rcases Option.or_eq_some_iff.mp h with h | ⟨-, h⟩
      · rcases Option.or_eq_some_iff.mp h with h | ⟨-, h⟩
        · rcases Option.or_eq_some_iff.mp h with h | ⟨-, h⟩
          · exact signalled_outside hS h
          · exact signalled_dispatcherStep hS h
        · exact signalled_logicStep hI hS h
      · exact signalled_pacerStep hS h
    · exact signalled_poolStep hS h

theorem signalled_of_run {as : List (Act R N)} {s : LifeState R N}
    (h : Lts.run step init as = some s) : Alive s ∧ Signalled s :=
  Lts.run_stable (I := fun s => Alive s ∧ Signalled s)
    (fun _ _ _ hI h => ⟨alive_step hI.1 h, signalled_step hI.1 hI.2 h⟩)
    ⟨alive_init, signalled_init⟩ h

/-! ## States in which nobody can go on -/

/-- The Dispatcher takes no new event by itself. -/
def isOwn : Routing.Act R → Bool
  | .emplace | .register _ | .read _ | .push | .leave | .pop | .route | .pushCommand
  | .logicLeave => true
  | .accept _ | .find _ | .close _ | .acquire _ | .release _ => false

/-- The steps that need nothing from outside. -/
def Act.internal : Act R N → Bool
  | .stop | .signal | .events none | .epollFails _ | .logicInterrupted | .tick
  | .pacerFails _ => false
  | .serve a | .work a => isOwn a
  | .pool a => a.internal
  | .main | .wake | .testRunning | .events (some _) | .asked | .storeStopped | .notifyLogic
  | .handled | .testLogic | .readLogic | .wokenLogic | .drained | .testPacer | .wokenPacer
  | .snapshot _ | .skip | .submit | .submitted | .looped | .forget | .released
  | .finish _ _ => true

def Stuck (s : LifeState R N) : Prop := ∀ a : Act R N, a.internal = true → step s a = none

/-- No thread can make the step. -/
theorem Stuck.parts {s : LifeState R N} (h : Stuck s) {a : Act R N} (ha : a.internal = true)
    (hmain : a ≠ .main) :
    outsideStep s a = none ∧ dispatcherStep s a = none ∧ logicStep s a = none ∧
      pacerStep s a = none ∧ poolStep s a = none := by
  have hs := h a ha
  unfold step at hs
  split at hs
  · exact absurd rfl hmain
  · obtain ⟨hs, h₅⟩ := Option.or_eq_none_iff.mp hs
    obtain ⟨hs, h₄⟩ := Option.or_eq_none_iff.mp hs
    obtain ⟨hs, h₃⟩ := Option.or_eq_none_iff.mp hs
    obtain ⟨h₁, h₂⟩ := Option.or_eq_none_iff.mp hs
    exact ⟨h₁, h₂, h₃, h₄, h₅⟩

/-- The Logic thread has a request to route, or there is none. -/
theorem work_ready (r : RouteState R) : r.logic = .idle ∧ r.cmdQueue = [] ∨
    ∃ a r', isWork a = true ∧ isOwn a = true ∧ Routing.step r a = some r' := by
  cases hl : r.logic with
  | idle =>
      cases hq : r.cmdQueue with
      | nil => exact .inl ⟨rfl, rfl⟩
      | cons m rest =>
          exact .inr ⟨.pop, _, rfl, rfl, by
            simp [Routing.step, Routing.dispatcherStep, Routing.logicStep, hl, hq]; rfl⟩
  | popped m =>
      right
      cases hfind : r.sessions.lookup m.fd with
      | none =>
          exact ⟨.route, _, rfl, rfl, by
            simp [Routing.step, Routing.dispatcherStep, Routing.logicStep, hl, hfind]; rfl⟩
      | some sid =>
          exact ⟨.route, _, rfl, rfl, by
            simp [Routing.step, Routing.dispatcherStep, Routing.logicStep, hl, hfind]; rfl⟩
  | holding sid m =>
      exact .inr ⟨.pushCommand, _, rfl, rfl, by
        simp [Routing.step, Routing.dispatcherStep, Routing.logicStep, hl]; rfl⟩
  | leaving sid =>
      exact .inr ⟨.logicLeave, _, rfl, rfl, by
        simp [Routing.step, Routing.dispatcherStep, Routing.logicStep, hl]; rfl⟩

/-- The Dispatcher is between two events, or goes on with one. -/
theorem serve_ready (r : RouteState R) : r.dispatcher = .idle ∨
    ∃ a r', isServe a = true ∧ isOwn a = true ∧ Routing.step r a = some r' := by
  cases hd : r.dispatcher with
  | idle => exact .inl rfl
  | created sid =>
      exact .inr ⟨.emplace, _, rfl, rfl, by simp [Routing.step, Routing.dispatcherStep, hd]; rfl⟩
  | emplaced sid =>
      exact .inr ⟨.register true, _, rfl, rfl, by
        simp [Routing.step, Routing.dispatcherStep, hd]; rfl⟩
  | reading fd sid =>
      exact .inr ⟨.read [], _, rfl, rfl, by simp [Routing.step, Routing.dispatcherStep, hd]; rfl⟩
  | pushing fd sid rest =>
      cases rest with
      | nil =>
          exact .inr ⟨.leave, _, rfl, rfl, by simp [Routing.step, Routing.dispatcherStep, hd]; rfl⟩
      | cons m rest =>
          exact .inr ⟨.push, _, rfl, rfl, by simp [Routing.step, Routing.dispatcherStep, hd]; rfl⟩
  | closing sid =>
      exact .inr ⟨.leave, _, rfl, rfl, by simp [Routing.step, Routing.dispatcherStep, hd]; rfl⟩

/-- The Logic thread waits for `logic_efd_`, or is not there. -/
theorem logic_of_stuck {s : LifeState R N} (hstuck : Stuck s) :
    s.logic = .absent ∨ s.logic = .reading ∧ s.logicEfd = 0 ∨ s.logic = .exited := by
  have hno : ∀ {a : Act R N}, a.internal = true → a ≠ .main → logicStep s a = none :=
    fun ha hm => (hstuck.parts ha hm).2.2.1
  cases hl : s.logic with
  | absent => exact .inl rfl
  | exited => exact .inr (.inr rfl)
  | testing =>
      have h := hno (a := .testLogic) rfl (by simp)
      rw [logicStep, if_pos hl] at h
      cases h
  | reading =>
      refine .inr (.inl ⟨rfl, ?_⟩)
      by_contra hefd
      have h := hno (a := .readLogic) rfl (by simp)
      rw [logicStep, if_pos ⟨hl, Nat.pos_of_ne_zero hefd⟩] at h
      cases h
  | woken =>
      have h := hno (a := .wokenLogic) rfl (by simp)
      rw [logicStep, if_pos hl] at h
      cases h
  | draining =>
      rcases work_ready s.route with ⟨hidle, hq⟩ | ⟨a, r, ha, hown, hr⟩
      · have h := hno (a := .drained) rfl (by simp)
        rw [logicStep, hl, hidle, hq] at h
        cases h
      · have h := hno (a := .work a) hown (by simp)
        rw [logicStep, if_pos ⟨hl, ha⟩, hr] at h
        cases h

/-- So does the Dispatcher for an event, unless `logic_efd_` is full. -/
theorem dispatcher_of_stuck {s : LifeState R N} (hstuck : Stuck s) :
    s.dispatcher = .absent ∨ s.dispatcher = .exited ∨
      (s.dispatcher = .waiting ∧ s.wakeFd = 0 ∧ s.signal = false) ∨
      ∃ control, s.dispatcher = .handling control ∧ efdMax ≤ s.logicEfd := by
  have hno : ∀ {a : Act R N}, a.internal = true → a ≠ .main → dispatcherStep s a = none :=
    fun ha hm => (hstuck.parts ha hm).2.1
  cases hd : s.dispatcher with
  | absent => exact .inl rfl
  | exited => exact .inr (.inl rfl)
  | testing =>
      have h := hno (a := .testRunning) rfl (by simp)
      rw [dispatcherStep, if_pos hd] at h
      cases h
  | waiting =>
      refine .inr (.inr (.inl ⟨rfl, ?_, ?_⟩))
      · by_contra hwake
        have h := hno (a := .events (some .wake)) rfl (by simp)
        rw [dispatcherStep, if_pos ⟨hd, decide_eq_true (Nat.pos_of_ne_zero hwake)⟩] at h
        cases h
      · by_contra hsignal
        have h := hno (a := .events (some .signal)) rfl (by simp)
        rw [dispatcherStep, if_pos ⟨hd, Bool.eq_true_of_not_eq_false hsignal⟩] at h
        cases h
  | stopping =>
      have h := hno (a := .storeStopped) rfl (by simp)
      rw [dispatcherStep, if_pos hd] at h
      cases h
  | handling control =>
      refine .inr (.inr (.inr ⟨control, rfl, ?_⟩))
      cases howes : s.owesLogic with
      | true =>
          have h := hno (a := .notifyLogic) rfl (by simp)
          rw [dispatcherStep] at h
          split at h
          · cases h
          · next hfull => exact Nat.le_of_not_lt fun hlt => hfull ⟨howes, hlt⟩
      | false =>
          exfalso
          rcases serve_ready s.route with hidle | ⟨a, r, ha, hown, hr⟩
          · have hbetween : between s = true := by
              rw [between, hidle, howes]
              rfl
            cases control with
            | none =>
                have h := hno (a := .handled) rfl (by simp)
                rw [dispatcherStep, if_pos ⟨hd, hbetween⟩] at h
                cases h
            | some control =>
                have h := hno (a := .asked) rfl (by simp)
                rw [dispatcherStep, hd] at h
                dsimp only at h
                rw [if_pos hbetween] at h
                cases h
          · have h := hno (a := .serve a) hown (by simp)
            rw [dispatcherStep, hd] at h
            dsimp only at h
            rw [if_pos ⟨ha, by rw [howes]; rfl⟩, hr] at h
            cases h

/-- A worker that runs a task can end it. -/
theorem finish_ready {s : LifeState R N} (hI : Alive s) {w : Fin N} {task : Nat}
    (hd : s.pool.doing (.inl w) = .running task) (exception : Bool) :
    poolStep s (.finish w exception) ≠ none := by
  have hmem : s.owner task ∈ s.route.pool := hI.refs.mem_iff.mpr
    (List.mem_append_right _ (List.mem_map_of_mem
      (ThreadPool.mem_unfinished_of_running hI.pooled hd)))
  have hr : Routing.step s.route (.release (s.owner task)) =
      some (Routing.drop { s.route with pool := s.route.pool.erase (s.owner task) }
        (s.owner task)) := if_pos hmem
  rw [poolStep, hd]
  dsimp only
  rw [ThreadPool.step, hd, hr]
  exact Option.some_ne_none _

theorem inside_of_internal {a : PoolAct N Caller} (h : a.internal = true) :
    a.isInside = true ∨ ∃ w exception, a = .finish w exception := by
  cases a with
  | finish w exception => exact .inr ⟨w, exception, rfl⟩
  | submit | shutdown => cases h
  | queue | checked | submitted | pop | popped | closed | join => exact .inl rfl

/-- Nobody can go on in the pool. -/
theorem pool_of_stuck {s : LifeState R N} (hI : Alive s) (hstuck : Stuck s) :
    ThreadPool.Stuck s.pool := by
  have hno : ∀ {a : Act R N}, a.internal = true → a ≠ .main → poolStep s a = none :=
    fun ha hm => (hstuck.parts ha hm).2.2.2.2
  intro a ha
  rcases inside_of_internal ha with hin | ⟨w, exception, rfl⟩
  · have h := hno (a := .pool a) ha (by simp)
    rw [poolStep, if_pos hin] at h
    exact Option.map_eq_none_iff.mp h
  · rw [ThreadPool.step]
    split
    · next task hd =>
        exact absurd (hno (a := .finish w exception) rfl (by simp)) (finish_ready hI hd exception)
    · rfl

/-- The pacer waits, has left, or was never there. -/
theorem pacer_of_stuck {s : LifeState R N} (hI : Alive s) (hstuck : Stuck s) :
    s.pacer = .absent ∨ s.pacer = .waiting ∨ s.pacer = .exited := by
  have hno : ∀ {a : Act R N}, a.internal = true → a ≠ .main → pacerStep s a = none :=
    fun ha hm => (hstuck.parts ha hm).2.2.2.1
  cases hp : s.pacer with
  | absent => exact .inl rfl
  | waiting => exact .inr (.inl rfl)
  | exited => exact .inr (.inr rfl)
  | testing =>
      have h := hno (a := .testPacer) rfl (by simp)
      rw [pacerStep, if_pos hp] at h
      cases h
  | woken =>
      have h := hno (a := .wokenPacer) rfl (by simp)
      rw [pacerStep, if_pos hp] at h
      cases h
  | collecting =>
      have h := hno (a := .snapshot (s.route.sessions.entries.map (·.2))) rfl (by simp)
      rw [pacerStep, if_pos ⟨hp, .refl _⟩] at h
      cases h
  | ticking rest =>
      cases rest with
      | nil =>
          have h := hno (a := .looped) rfl (by simp)
          rw [pacerStep, if_pos hp] at h
          cases h
      | cons sid rest =>
          have h := hno (a := .skip) rfl (by simp)
          rw [pacerStep, hp] at h
          cases h
  | submitting rest =>
      have hsub := ThreadPool.submits_of_stuck hI.pooled (pool_of_stuck hI hstuck) (.inr .pacer)
      rcases hI.pacerCalls with hfree | ⟨-, task, pushing, hd⟩
      · have h := hno (a := .submitted) rfl (by simp)
        rw [pacerStep, hp] at h
        dsimp only at h
        rw [if_pos hfree] at h
        cases h
      · rw [hd] at hsub
        cases hsub
  | releasing =>
      cases hactive : s.active with
      | nil =>
          have h := hno (a := .released) rfl (by simp)
          rw [pacerStep, hp, hactive] at h
          cases h
      | cons sid rest =>
          have hmem : sid ∈ s.route.pool := hI.refs.mem_iff.mpr (by simp [hactive])
          have hr : Routing.step s.route (.release sid) =
              some (Routing.drop { s.route with pool := s.route.pool.erase sid } sid) :=
            if_pos hmem
          have h := hno (a := .forget) rfl (by simp)
          rw [pacerStep, hp, hactive] at h
          dsimp only at h
          rw [hr] at h
          cases h

/-- A `shutdown` that has closed the pool does not hang. -/
theorem shutdown_of_stuck {s : PoolState N Caller} (hP : ThreadPool.Pooled s)
    (hT : ThreadPool.Told s) (hstuck : ThreadPool.Stuck s) :
    s.doing (.inr .main) ≠ .closing ∧ ∀ i, s.doing (.inr .main) ≠ .joining i := by
  refine ⟨fun hd => ?_, fun i hd => ?_⟩
  · rcases ThreadPool.rests_inCall hP hstuck (i := .inr .main) (by rw [hd]; rfl) with
      ⟨ret, hpc, hret⟩ | ⟨-, c, hc, -⟩
    · rw [show ret = .void from hret] at hpc
      exact ThreadPool.not_stuck hstuck (a := .closed .main) rfl
        (by rw [ThreadPool.step, hd, hpc])
    · cases hc
  · have hclosed : s.tasks.closed = true := hT (.inr .main) (.inr (by
      unfold ThreadPool.places
      rw [hd]
      rfl))
    by_cases hi : i < N
    · -- a worker that waits would have been woken
      have hworker : s.doing (.inl ⟨i, hi⟩) = .exited := by
        have hsub := ThreadPool.submits_of_stuck hP hstuck (.inl ⟨i, hi⟩)
        have hrole := hP.role (.inl ⟨i, hi⟩)
        cases hw : s.doing (.inl ⟨i, hi⟩) with
        | exited => rfl
        | looping =>
            exact (ThreadPool.not_stuck hstuck (a := .pop ⟨i, hi⟩) rfl
              (by rw [ThreadPool.step, hw])).elim
        | running task =>
            exact (ThreadPool.not_stuck hstuck (a := .finish ⟨i, hi⟩ false) rfl
              (by rw [ThreadPool.step, hw])).elim
        | popping =>
            rcases ThreadPool.rests_inCall hP hstuck (i := .inl ⟨i, hi⟩) (by rw [hw]; rfl) with
              ⟨ret, hpc, x, rfl⟩ | ⟨-, c, hc, hav⟩
            · cases x with
              | none =>
                  exact (ThreadPool.not_stuck hstuck (a := .popped ⟨i, hi⟩) rfl
                    (by rw [ThreadPool.step, hw, hpc])).elim
              | some task =>
                  exact (ThreadPool.not_stuck hstuck (a := .popped ⟨i, hi⟩) rfl
                    (by rw [ThreadPool.step, hw, hpc])).elim
            · obtain rfl := Option.some.inj hc
              exact absurd (.inr hclosed) hav
        | submitting =>
            rw [hw] at hsub
            cases hsub
        | free | closing | joining | shutDown =>
            rw [hw] at hrole
            exact hrole.elim
      exact ThreadPool.not_stuck hstuck (a := .join .main) rfl
        (by rw [ThreadPool.step, hd]; dsimp only; rw [dif_pos hi, if_pos hworker])
    · exact ThreadPool.not_stuck hstuck (a := .join .main) rfl
        (by rw [ThreadPool.step, hd]; dsimp only; rw [dif_neg hi])

/-- Where the server can be when nobody can go on. -/
inductive AtRest (s : LifeState R N) : Prop where
  /-- it is up, and nobody has asked it to stop -/
  | up (hm : s.main = .joinDispatcher) (hd : s.dispatcher = .waiting) (hrun : s.running = true)
      (hsignal : s.signal = false)
  /-- it is on its way down, and the pacer's next tick will go on -/
  | timer (hm : s.main = .joinPacer) (hp : s.pacer = .waiting)
  /-- the write to `logic_efd_` blocks -/
  | full (hm : s.main = .wakeLogic) (hl : s.logic = .exited) (hfull : efdMax ≤ s.logicEfd)
  | down (hm : s.main = .returned)

/-- **The shutdown is not stuck**: in every run, when nobody can go on, the server is up and was
    not asked to stop, or the pacer's timer is awaited, or it is down; only a full `logic_efd_`
    could hold it. -/
theorem shutdown_not_stuck {as : List (Act R N)} {s : LifeState R N}
    (h : Lts.run step init as = some s) (hstuck : Stuck s) : AtRest s := by
  obtain ⟨hI, hS⟩ := signalled_of_run h
  have hmain : mainStep s = none := hstuck .main rfl
  have hlogic := logic_of_stuck hstuck
  have hpacer := pacer_of_stuck hI hstuck
  have hrank : ∀ m, s.main = m → s.main.rank = m.rank := fun m hm => congrArg _ hm
  have hthere : 2 ≤ s.main.rank → s.logic ≠ .absent := fun hge habsent => by
    have := hI.logicStarts.mp habsent
    omega
  unfold mainStep at hmain
  cases hm : s.main with
  | returned => exact .down hm
  | preparing | spawnLogic | spawnPacer | spawnDispatcher | stopLogic | stopPacer =>
      rw [hm] at hmain
      cases hmain
  | joinDispatcher =>
      have hfour := hrank _ hm
      rw [hm] at hmain
      dsimp only at hmain
      have hexit : s.dispatcher ≠ .exited := fun hd => by
        rw [if_pos hd] at hmain
        cases hmain
      rcases dispatcher_of_stuck hstuck with hd | hd | ⟨hd, hwake, hsignal⟩ | ⟨control, hd, hfull⟩
      · exact absurd (hI.dispatcherStarts.mp hd) (by rw [hfour]; decide)
      · exact absurd hd hexit
      · refine .up hm hd ?_ hsignal
        by_contra hrun
        rcases hS.asked (Bool.eq_false_of_not_eq_true hrun) with h | h | h | h
        · rw [hfour] at h
          cases h
        · rw [hwake] at h
          cases h
        · have hno := (hstuck.parts (a := .wake) rfl (by simp)).1
          rw [outsideStep, if_pos h] at hno
          cases hno
        · exact hexit h
      · -- the Logic thread would read
        rcases hlogic with hl | ⟨-, hefd⟩ | hl
        · exact absurd hl (hthere (by rw [hfour]; decide))
        · rw [hefd] at hfull
          exact absurd hfull (Nat.not_le_of_lt efdMax_pos)
        · have hsix := hS.logicLast hl
          rw [hfour] at hsix
          exact absurd hsix (by decide)
  | wakeLogic =>
      have hseven := hrank _ hm
      rw [hm] at hmain
      dsimp only at hmain
      have hfull : efdMax ≤ s.logicEfd := by
        refine Nat.le_of_not_lt fun hlt => ?_
        rw [if_pos hlt] at hmain
        cases hmain
      rcases hlogic with hl | ⟨-, hefd⟩ | hl
      · exact absurd hl (hthere (by rw [hseven]; decide))
      · rw [hefd] at hfull
        exact absurd hfull (Nat.not_le_of_lt efdMax_pos)
      · exact .full hm hl hfull
  | joinLogic =>
      have height := hrank _ hm
      rw [hm] at hmain
      dsimp only at hmain
      rcases hlogic with hl | ⟨hl, hefd⟩ | hl
      · exact absurd hl (hthere (by rw [height]; decide))
      · have hpos := hS.logicWoken height hl
        omega
      · rw [if_pos hl] at hmain
        cases hmain
  | joinPacer =>
      have hnine := hrank _ hm
      rw [hm] at hmain
      dsimp only at hmain
      rcases hpacer with hp | hp | hp
      · exact absurd (hI.pacerStarts.mp hp) (by rw [hnine]; decide)
      · exact .timer hm hp
      · rw [if_pos hp] at hmain
        cases hmain
  | shutPool =>
      have hten := hrank _ hm
      have hfree := hI.mainCalls (Nat.le_of_eq hten)
      have hdone := hI.unshut (Nat.le_of_eq hten)
      rw [hm] at hmain
      dsimp only at hmain
      rw [ThreadPool.step, hfree, hdone] at hmain
      cases hmain
  | shuttingPool =>
      rw [hm] at hmain
      dsimp only at hmain
      have hshut := shutdown_of_stuck hI.pooled hI.told (pool_of_stuck hI hstuck)
      rcases hI.mainShuts (hrank _ hm) with hd | ⟨i, hd⟩ | hd
      · exact absurd hd hshut.1
      · exact absurd hd (hshut.2 i)
      · rw [if_pos hd] at hmain
        cases hmain
  | clearing =>
      rw [hm] at hmain
      dsimp only at hmain
      split at hmain <;> cases hmain

/-- The server is up: its threads and its one worker wait. -/
def restingRun : List (Act String 1) :=
  [.main, .main, .main, .main, .testRunning, .testLogic, .testPacer, .pool (.pop sole),
    .pool (.queue (.lock (.inl sole))), .pool (.queue (.work (.inl sole)))]

/-- Such a state is stuck. -/
theorem stuck_of_resting {s : LifeState R N} (hmain : s.main = .joinDispatcher)
    (hd : s.dispatcher = .waiting) (hwake : s.wakeFd = 0) (howes : s.owesWake = 0)
    (hsignal : s.signal = false) (hnotify : s.owesLogic = false) (hl : s.logic = .reading)
    (hefd : s.logicEfd = 0) (hp : s.pacer = .waiting) (hmutex : s.pool.tasks.mutex = none)
    (hpc : ∀ i, s.pool.tasks.pc i = .idle ∨ s.pool.tasks.pc i = .asleep .pop)
    (hworkers : ∀ w, s.pool.doing (.inl w) = .popping)
    (hcallers : ∀ k, s.pool.doing (.inr k) = .free) : Stuck s := by
  have hpool : ∀ a : PoolAct N Caller, a.internal = true → ThreadPool.step s.pool a = none := by
    intro a ha
    cases a with
    | queue a =>
        have hqueue : BlockingQueue.step 0 s.pool.tasks a = none := by
          cases a with
          | call | wake | expire => cases ha
          | lock i | work i | unlock i | notifyOne i | notifyAll i =>
              rcases hpc i with h | h <;> simp [BlockingQueue.step, h, hmutex]
        simp [ThreadPool.step, hqueue]
    | submit | shutdown => cases ha
    | checked i | submitted i =>
        cases i with
        | inl w => simp [ThreadPool.step, hworkers]
        | inr k => simp [ThreadPool.step, hcallers]
    | pop w | finish w => simp [ThreadPool.step, hworkers]
    | popped w => rcases hpc (.inl w) with h | h <;> simp [ThreadPool.step, hworkers, h]
    | closed k | join k => simp [ThreadPool.step, hcallers]
  intro a ha
  cases a with
  | main => simp [step, mainStep, hmain, hd]
  | events control =>
      cases control with
      | none => cases ha
      | some c => cases c <;> simp [step, outsideStep, dispatcherStep, logicStep, pacerStep,
          poolStep, hd, raised, hwake, hsignal]
  | stop | signal | epollFails | logicInterrupted | tick | pacerFails => cases ha
  | pool a =>
      simp [step, outsideStep, dispatcherStep, logicStep, pacerStep, poolStep, hpool a ha]
  | finish w exception =>
      simp [step, outsideStep, dispatcherStep, logicStep, pacerStep, poolStep, hworkers]
  | wake | testRunning | asked | storeStopped | serve | notifyLogic | handled | testLogic
  | readLogic | wokenLogic | work | drained | testPacer | wokenPacer | snapshot | skip | submit
  | submitted | looped | forget | released =>
      simp [step, outsideStep, dispatcherStep, logicStep, pacerStep, poolStep, hd, hl, hp, hefd,
        howes, hnotify]

theorem shutdown_not_stuck_restingRun : ∃ s, Lts.run step init restingRun = some s ∧ AtRest s ∧
    s.running = true := by
  refine ⟨_, rfl, @shutdown_not_stuck String 1 restingRun _ rfl ?_, rfl⟩
  refine stuck_of_resting rfl rfl rfl rfl rfl rfl rfl rfl rfl rfl (fun i => ?_) (fun w => ?_)
    fun k => ?_
  · cases i with
    | inl w =>
        match w with
        | ⟨0, _⟩ => exact .inr rfl
    | inr k => cases k <;> exact .inl rfl
  · match w with
    | ⟨0, _⟩ => rfl
  · cases k <;> rfl

end RtspServer.Lifecycle
