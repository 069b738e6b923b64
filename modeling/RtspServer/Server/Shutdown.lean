/-
  How the server ends. `Alive` says for every state of a run which threads are there at which
  point of `run()`, which references the pool holds, and who may call it; each step of each thread
  keeps it. The pool is closed only after the pacer is joined, so no submit is ever refused, and
  the sessions are destroyed only after the workers are joined.

  `shutdown_clean`: when `run()` returns, all threads are gone, every task that was submitted has
  run, exactly once, no session is left and no descriptor of a client is open.
  `shutdown_not_stuck`: no wake-up is lost on the way there, except that `run()` may block in its
  write to a full `logic_efd_` that nobody reads any more.
-/
import RtspServer.Server.Lifecycle

namespace RtspServer.Routing

variable {R : Type}

/-! ## What the steps of one thread leave to the others -/

@[simp] theorem drop_pool (s : RouteState R) (sid : Nat) : (drop s sid).pool = s.pool := by
  unfold drop
  split <;> rfl

@[simp] theorem drop_dispatcher (s : RouteState R) (sid : Nat) :
    (drop s sid).dispatcher = s.dispatcher := by
  unfold drop
  split <;> rfl

@[simp] theorem drop_sessions (s : RouteState R) (sid : Nat) :
    (drop s sid).sessions = s.sessions := by
  unfold drop
  split <;> rfl

end RtspServer.Routing

namespace RtspServer.Lifecycle

open Routing (RouteState efdMax)
open ThreadPool (PoolState PoolAct Doing Pooled Told unfinished)

variable {R : Type} {N : Nat}

theorem serve_keeps {r r' : RouteState R} {a : Routing.Act R} (ha : isServe a = true)
    (h : Routing.step r a = some r') : r'.logic = r.logic ∧ r'.pool = r.pool := by
  unfold Routing.step at h
  rcases Option.or_eq_some_iff.mp h with h | ⟨-, h⟩
  · rcases Option.or_eq_some_iff.mp h with h | ⟨-, h⟩
    · refine ⟨(Routing.spares_dispatcherStep h).logic, ?_⟩
      unfold Routing.dispatcherStep at h
      split at h
      all_goals (repeat' split at h)
      all_goals cases h
      all_goals simp
    · cases a <;> first | cases h | cases ha
  · cases a <;> first | cases h | cases ha

theorem work_keeps {r r' : RouteState R} {a : Routing.Act R} (ha : isWork a = true)
    (h : Routing.step r a = some r') :
    r'.dispatcher = r.dispatcher ∧ r'.pool = r.pool ∧ r'.sessions = r.sessions := by
  unfold Routing.step at h
  rcases Option.or_eq_some_iff.mp h with h | ⟨-, h⟩
  · rcases Option.or_eq_some_iff.mp h with h | ⟨-, h⟩
    · cases a <;> first | cases h | cases ha
    · unfold Routing.logicStep at h
      split at h
      all_goals (repeat' split at h)
      all_goals cases h
      all_goals simp
  · cases a <;> first | cases h | cases ha

theorem release_eq {r r' : RouteState R} {sid : Nat}
    (h : Routing.step r (.release sid) = some r') :
    sid ∈ r.pool ∧ r' = Routing.drop { r with pool := r.pool.erase sid } sid := by
  change (if sid ∈ r.pool then some (Routing.drop { r with pool := r.pool.erase sid } sid)
    else none) = some r' at h
  split at h
  · next hmem => exact ⟨hmem, (Option.some.inj h).symm⟩
  · cases h

/-! ## The order of events in `run()` -/

/-- How far `run()` is. -/
def MainPc.rank : MainPc → Nat
  | .preparing => 0
  | .spawnLogic => 1
  | .spawnPacer => 2
  | .spawnDispatcher => 3
  | .joinDispatcher => 4
  | .stopLogic => 5
  | .stopPacer => 6
  | .wakeLogic => 7
  | .joinLogic => 8
  | .joinPacer => 9
  | .shutPool => 10
  | .shuttingPool => 11
  | .clearing => 12
  | .returned => 13

/-- The snapshot has not gone out of scope. -/
def PacerPc.hasSnapshot : PacerPc → Bool
  | .ticking _ | .submitting _ | .releasing => true
  | .absent | .testing | .waiting | .woken | .collecting | .exited => false

/-- What holds in every state. -/
structure Alive (s : LifeState R N) : Prop where
  pooled : Pooled s.pool
  told : Told s.pool
  tight : Routing.Tight s.route
  dispatcherStarts : s.dispatcher = .absent ↔ s.main.rank < 4
  dispatcherEnds : 5 ≤ s.main.rank → s.dispatcher = .exited
  logicStarts : s.logic = .absent ↔ s.main.rank < 2
  logicEnds : 9 ≤ s.main.rank → s.logic = .exited
  pacerStarts : s.pacer = .absent ↔ s.main.rank < 3
  pacerEnds : 10 ≤ s.main.rank → s.pacer = .exited
  logicStop : s.logicStop = true ↔ 6 ≤ s.main.rank
  pacerStop : s.pacerStop = true ↔ 7 ≤ s.main.rank
  /-- outside its loops a thread holds no reference -/
  dispatcherRests : (∀ control, s.dispatcher ≠ .handling control) → between s = true
  logicRests : s.logic ≠ .draining → s.route.logic = .idle
  pacerRests : s.pacer.hasSnapshot = false → s.active = []
  /-- who is in the pool -/
  pacerCalls : s.pool.doing (.inr .pacer) = .free ∨
    (∃ rest, s.pacer = .submitting rest) ∧
      ∃ task pushing, s.pool.doing (.inr .pacer) = .submitting none task pushing
  mainCalls : s.main.rank ≤ 10 → s.pool.doing (.inr .main) = .free
  unshut : s.main.rank ≤ 10 → s.pool.shutdownDone = false
  mainShuts : s.main.rank = 11 → s.pool.doing (.inr .main) = .closing ∨
    (∃ i, s.pool.doing (.inr .main) = .joining i) ∨ s.pool.doing (.inr .main) = .shutDown
  mainShut : 12 ≤ s.main.rank → s.pool.doing (.inr .main) = .shutDown
  tasks : ∀ w, (s.pool.doing (.inl w)).submits = none
  opened : s.pool.tasks.closed = true → 11 ≤ s.main.rank
  threw : s.pool.threw = []
  /-- the references of the snapshot and of the tasks that are left -/
  refs : s.route.pool.Perm (s.active ++ (unfinished s.pool).map s.owner)
  cleared : s.main = .returned → s.route.sessions.entries = []

theorem alive_init : Alive (init : LifeState R N) where
  pooled := ThreadPool.pooled_init
  told := ThreadPool.told_init
  tight := Routing.tight_init
  dispatcherStarts := by simp [init, MainPc.rank]
  dispatcherEnds := by simp [init, MainPc.rank]
  logicStarts := by simp [init, MainPc.rank]
  logicEnds := by simp [init, MainPc.rank]
  pacerStarts := by simp [init, MainPc.rank]
  pacerEnds := by simp [init, MainPc.rank]
  logicStop := by simp [init, MainPc.rank]
  pacerStop := by simp [init, MainPc.rank]
  dispatcherRests := fun _ => rfl
  logicRests := fun _ => rfl
  pacerRests := fun _ => rfl
  pacerCalls := .inl rfl
  mainCalls := fun _ => rfl
  unshut := fun _ => rfl
  mainShuts := by simp [init, MainPc.rank]
  mainShut := by simp [init, MainPc.rank]
  tasks := fun _ => rfl
  opened := fun h => nomatch h
  threw := rfl
  refs := .refl _
  cleared := fun h => nomatch h

/-! ## `stop()`, the signals and the Dispatcher -/

theorem alive_outside {s s' : LifeState R N} {a : Act R N} (hI : Alive s)
    (h : outsideStep s a = some s') : Alive s' := by
  unfold outsideStep at h
  repeat' split at h
  all_goals cases h
  all_goals exact { hI with }

/-- The Dispatcher is in its loop, and goes on to another place. -/
theorem alive_dispatcher {s : LifeState R N} (hI : Alive s) {d : DispatcherPc}
    (hd : s.dispatcher ≠ .absent ∧ s.dispatcher ≠ .exited) (hd' : d ≠ .absent)
    (hrests : (∀ control, d ≠ .handling control) → between s = true) :
    Alive { s with dispatcher := d } :=
  { hI with
    dispatcherStarts := by
      have hstarts := hI.dispatcherStarts
      simp only [hd.1, false_iff] at hstarts
      simpa only [hd', false_iff] using hstarts
    dispatcherEnds := fun h => absurd (hI.dispatcherEnds h) hd.2
    dispatcherRests := hrests }

/-- While the Dispatcher handles events, `run()` waits for it. -/
theorem Alive.rank_handling {s : LifeState R N} (hI : Alive s) {control : Option Control}
    (hd : s.dispatcher = .handling control) : s.main.rank = 4 := by
  have hstarts := hI.dispatcherStarts
  have hends := hI.dispatcherEnds
  rw [hd] at hstarts hends
  have hge : ¬ s.main.rank < 4 := fun h => nomatch hstarts.mpr h
  have hlt : ¬ 5 ≤ s.main.rank := fun h => nomatch hends h
  omega

theorem alive_dispatcherStep {s s' : LifeState R N} {a : Act R N} (hI : Alive s)
    (h : dispatcherStep s a = some s') : Alive s' := by
  unfold dispatcherStep at h
  split at h
  · -- `running_.load`
    split at h
    · next hd =>
        cases h
        refine alive_dispatcher hI (by simp [hd]) ?_ fun _ => hI.dispatcherRests (by simp [hd])
        split <;> simp
    · cases h
  · split at h
    · next hd =>
        cases h
        exact alive_dispatcher hI (by simp [hd.1]) (by simp) fun hno => absurd rfl (hno _)
    · cases h
  · split at h
    · next hd =>
        cases h
        refine alive_dispatcher hI (by simp [hd]) ?_ fun _ => hI.dispatcherRests (by simp [hd])
        split <;> simp
    · cases h
  · split at h
    · next control hd =>
        split at h
        · next hbetween =>
            cases h
            have hstop : Alive { s with dispatcher := .stopping } :=
              alive_dispatcher hI (by simp [hd]) (by simp) fun _ => hbetween
            exact { hstop with }
        · cases h
    · cases h
  · split at h
    · next hd =>
        cases h
        have hexit : Alive { s with dispatcher := .exited } :=
          alive_dispatcher hI (by simp [hd]) (by simp) fun _ => hI.dispatcherRests (by simp [hd])
        exact { hexit with }
    · cases h
  · -- work on an event
    split at h
    · next control hd =>
        split at h
        · next hserve =>
            obtain ⟨r, hr, rfl⟩ := Option.map_eq_some_iff.mp h
            obtain ⟨hlogic, hpool⟩ := serve_keeps hserve.1 hr
            have hrank := hI.rank_handling hd
            exact { hI with
              tight := Routing.tight_step hI.tight hr
              dispatcherRests := fun hno => absurd hd (hno control)
              logicRests := fun hno => hlogic.trans (hI.logicRests hno)
              refs := by
                show r.pool.Perm _
                rw [hpool]
                exact hI.refs
              cleared := fun hret => by
                rw [show s.main = .returned from hret] at hrank
                cases hrank }
        · cases h
    · cases h
  · -- only a Dispatcher that handles events owes a write
    split at h
    · next howes =>
        cases h
        exact { hI with
          dispatcherRests := fun hno => by
            have hrests := hI.dispatcherRests hno
            unfold between at hrests
            rw [howes.1] at hrests
            split at hrests <;> cases hrests }
    · cases h
  · split at h
    · next hd =>
        cases h
        exact alive_dispatcher hI (by simp [hd.1]) (by simp) fun _ => hd.2
    · cases h
  · cases h

/-! ## The Logic thread -/

/-- The Logic thread is in its loop, and goes on to another place. -/
theorem alive_logic {s : LifeState R N} (hI : Alive s) {l : LogicPc}
    (hl : s.logic ≠ .absent ∧ s.logic ≠ .exited) (hl' : l ≠ .absent)
    (hrests : l ≠ .draining → s.route.logic = .idle) : Alive { s with logic := l } :=
  { hI with
    logicStarts := by
      have hstarts := hI.logicStarts
      simp only [hl.1, false_iff] at hstarts
      simpa only [hl', false_iff] using hstarts
    logicEnds := fun h => absurd (hI.logicEnds h) hl.2
    logicRests := hrests }

theorem alive_logicStep {s s' : LifeState R N} {a : Act R N} (hI : Alive s)
    (h : logicStep s a = some s') : Alive s' := by
  unfold logicStep at h
  split at h
  · split at h
    · next hl =>
        cases h
        refine alive_logic hI (by simp [hl]) ?_ fun _ => hI.logicRests (by simp [hl])
        split <;> simp
    · cases h
  · split at h
    · next hl =>
        cases h
        have hwoken : Alive { s with logic := .woken } :=
          alive_logic hI (by simp [hl.1]) (by simp) fun _ => hI.logicRests (by simp [hl.1])
        exact { hwoken with }
    · cases h
  · split at h
    · next hl =>
        cases h
        exact alive_logic hI (by simp [hl]) (by simp) fun _ => hI.logicRests (by simp [hl])
    · cases h
  · split at h
    · next hl =>
        cases h
        refine alive_logic hI (by simp [hl]) ?_ fun _ => hI.logicRests (by simp [hl])
        split <;> simp
    · cases h
  · -- a request is routed
    split at h
    · next hl =>
        obtain ⟨r, hr, rfl⟩ := Option.map_eq_some_iff.mp h
        obtain ⟨hdispatcher, hpool, hsessions⟩ := work_keeps hl.2 hr
        exact { hI with
          tight := Routing.tight_step hI.tight hr
          dispatcherRests := fun hno => by
            have hrests := hI.dispatcherRests hno
            unfold between at hrests ⊢
            rwa [← hdispatcher] at hrests
          logicRests := fun hno => absurd hl.1 hno
          refs := by
            show r.pool.Perm _
            rw [hpool]
            exact hI.refs
          cleared := fun hret => by
            show r.sessions.entries = []
            rw [hsessions]
            exact hI.cleared hret }
    · cases h
  · split at h
    · next hl hidle _ =>
        cases h
        exact alive_logic hI (by simp [hl]) (by simp) fun _ => hidle
    · cases h
  · cases h

/-! ## The pacer -/

/-- The pacer is in its loop, and goes on to another place. -/
theorem alive_pacer {s : LifeState R N} (hI : Alive s) {p : PacerPc}
    (hp : s.pacer ≠ .absent ∧ s.pacer ≠ .exited) (hp' : p ≠ .absent)
    (hrests : p.hasSnapshot = false → s.active = [])
    (hcalls : s.pool.doing (.inr .pacer) = .free ∨
      (∃ rest, p = .submitting rest) ∧
        ∃ task pushing, s.pool.doing (.inr .pacer) = .submitting none task pushing) :
    Alive { s with pacer := p } :=
  { hI with
    pacerStarts := by
      have hstarts := hI.pacerStarts
      simp only [hp.1, false_iff] at hstarts
      simpa only [hp', false_iff] using hstarts
    pacerEnds := fun h => absurd (hI.pacerEnds h) hp.2
    pacerRests := hrests
    pacerCalls := hcalls }

/-- Outside `submit` the pacer is not in the pool. -/
theorem Alive.pacer_free {s : LifeState R N} (hI : Alive s)
    (hp : ∀ rest, s.pacer ≠ .submitting rest) : s.pool.doing (.inr .pacer) = .free :=
  hI.pacerCalls.resolve_right fun h => h.1.elim fun rest hrest => hp rest hrest

/-- The pacer submits a task. -/
theorem alive_submit {s : LifeState R N} {sid : Nat} {rest : List Nat} {p : PoolState N Caller}
    (hI : Alive s) (hp : s.pacer = .ticking (sid :: rest)) (hmem : sid ∈ s.route.pool)
    (hstep : ThreadPool.step s.pool (.submit (.inr .pacer)) = some p) :
    Alive { s with
      pool := p, owner := Function.update s.owner s.pool.next sid
      route := { s.route with pool := sid :: s.route.pool }, pacer := .submitting rest } := by
  have hfree := hI.pacer_free (by simp [hp])
  obtain ⟨hmoves, hnext, hfinished, hdone⟩ := ThreadPool.moves_submit hfree hstep
  have hothers : ∀ i, i ≠ .inr .pacer → p.doing i = s.pool.doing i := fun i hi => by
    rw [hmoves.doing, Function.update_of_ne hi]
  exact { hI with
    pooled := ThreadPool.pooled_step hI.pooled hstep
    told := ThreadPool.told_step hI.pooled hI.told hstep
    tight := Routing.tight_share hI.tight hmem
    pacerStarts := by
      have hstarts := hI.pacerStarts
      rw [hp] at hstarts
      simpa only [reduceCtorEq, false_iff] using hstarts
    pacerEnds := fun h => by
      have hends := hI.pacerEnds h
      rw [hp] at hends
      cases hends
    pacerRests := fun h => nomatch h
    pacerCalls := .inr ⟨⟨rest, rfl⟩, s.pool.next, false, by rw [hmoves.doing, Function.update_self]⟩
    mainCalls := fun h => (hothers _ (by simp)).trans (hI.mainCalls h)
    unshut := fun h => hdone.trans (hI.unshut h)
    mainShuts := fun h => by
      rw [hothers _ (by simp)]
      exact hI.mainShuts h
    mainShut := fun h => (hothers _ (by simp)).trans (hI.mainShut h)
    tasks := fun w => by
      rw [hothers _ (by simp)]
      exact hI.tasks w
    opened := fun h => hI.opened (hmoves.closed.symm.trans h)
    threw := hmoves.threw.trans hI.threw
    refs := by
      have hnew : s.pool.next ∉ s.pool.finished := fun h =>
        Nat.lt_irrefl _ (ThreadPool.lt_next_of_finished hI.pooled h)
      have hold : (unfinished s.pool).map (Function.update s.owner s.pool.next sid) =
          (unfinished s.pool).map s.owner := by
        refine List.map_congr_left fun t ht => Function.update_of_ne ?_ _ _
        have hlt := List.mem_range.mp (List.mem_filter.mp ht).1
        omega
      show (sid :: s.route.pool).Perm
        (s.active ++ (unfinished p).map (Function.update s.owner s.pool.next sid))
      rw [ThreadPool.unfinished_submit hnext hfinished hnew, List.map_append, hold,
        List.map_singleton, Function.update_self, ← List.append_assoc]
      exact (List.Perm.cons sid hI.refs).trans (List.perm_append_singleton sid _).symm }

/-- The snapshot is taken under the lock of `sessions_`. -/
theorem alive_snapshot {s : LifeState R N} {order : List Nat} (hI : Alive s)
    (hp : s.pacer = .collecting) (horder : order.Perm (s.route.sessions.entries.map (·.2))) :
    Alive { s with
      active := order, route := { s.route with pool := order ++ s.route.pool }
      pacer := .ticking order } := by
  have hnone : s.active = [] := hI.pacerRests (by rw [hp]; rfl)
  have hpacer : Alive { s with pacer := .ticking order } :=
    alive_pacer hI (by simp [hp]) (by simp) (fun h => nomatch h) (.inl (hI.pacer_free (by simp [hp])))
  exact { hpacer with
    tight := by
      refine Routing.tight_pool hI.tight (fun sid hsid => ?_) fun sid hsid =>
        List.mem_append_right _ hsid
      rcases List.mem_append.mp hsid with hsid | hsid
      · obtain ⟨⟨fd, i⟩, hmem, rfl⟩ := List.mem_map.mp (horder.mem_iff.mp hsid)
        exact Routing.referenced_of_lookup (AList.mem_lookup_iff.mpr hmem)
      · exact Routing.referenced_of_pool hsid
    pacerRests := fun h => nomatch h
    refs := by
      have hrefs := hI.refs
      rw [hnone, List.nil_append] at hrefs
      exact List.Perm.append_left order hrefs }

/-- The snapshot drops a reference. -/
theorem alive_forget {s : LifeState R N} {sid : Nat} {rest : List Nat} {r : RouteState R}
    (hI : Alive s) (hp : s.pacer = .releasing) (hactive : s.active = sid :: rest)
    (hr : Routing.step s.route (.release sid) = some r) :
    Alive { s with route := r, active := rest } := by
  obtain ⟨hmem, rfl⟩ := release_eq hr
  exact { hI with
    tight := Routing.tight_step hI.tight hr
    dispatcherRests := fun h => by
      have hrests := hI.dispatcherRests h
      unfold between at hrests ⊢
      simpa only [Routing.drop_dispatcher] using hrests
    logicRests := fun h => by
      show (Routing.drop _ _).logic = _
      rw [Routing.drop_logic]
      exact hI.logicRests h
    pacerRests := fun h => by
      rw [show s.pacer = _ from hp] at h
      cases h
    refs := by
      have hrefs := hI.refs.erase sid
      rw [hactive, List.cons_append, List.erase_cons_head] at hrefs
      show (Routing.drop _ _).pool.Perm _
      rw [Routing.drop_pool]
      exact hrefs
    cleared := fun h => by
      show (Routing.drop _ _).sessions.entries = []
      rw [Routing.drop_sessions]
      exact hI.cleared h }

theorem alive_pacerStep {s s' : LifeState R N} {a : Act R N} (hI : Alive s)
    (h : pacerStep s a = some s') : Alive s' := by
  unfold pacerStep at h
  split at h
  · split at h
    · next hp =>
        cases h
        refine alive_pacer hI (by simp [hp]) ?_ (fun _ => hI.pacerRests (by rw [hp]; rfl))
          (.inl (hI.pacer_free (by simp [hp])))
        split <;> simp
    · cases h
  · split at h
    · next hp =>
        cases h
        exact alive_pacer hI (by simp [hp]) (by simp) (fun _ => hI.pacerRests (by rw [hp]; rfl))
          (.inl (hI.pacer_free (by simp [hp])))
    · cases h
  · split at h
    · next hp =>
        cases h
        refine alive_pacer hI (by simp [hp]) ?_ (fun _ => hI.pacerRests (by rw [hp]; rfl))
          (.inl (hI.pacer_free (by simp [hp])))
        split <;> simp
    · cases h
  · split at h
    · next hp =>
        cases h
        refine alive_pacer hI (by simp [hp]) ?_ (fun _ => hI.pacerRests (by rw [hp]; rfl))
          (.inl (hI.pacer_free (by simp [hp])))
        split <;> simp
    · cases h
  · split at h
    · next hp =>
        cases h
        exact alive_snapshot hI hp.1 hp.2
    · cases h
  · split at h
    · next sid rest hp =>
        cases h
        exact alive_pacer hI (by simp [hp]) (by simp) (fun h => nomatch h)
          (.inl (hI.pacer_free (by simp [hp])))
    · cases h
  · split at h
    · next sid rest hp =>
        unfold submitTask at h
        split at h
        · next hmem =>
            obtain ⟨p, hstep, rfl⟩ := Option.map_eq_some_iff.mp h
            exact alive_submit hI hp hmem hstep
        · cases h
    · cases h
  · split at h
    · next rest hp =>
        split at h
        · next hfree =>
            cases h
            exact alive_pacer hI (by simp [hp]) (by simp) (fun h => nomatch h) (.inl hfree)
        · cases h
    · cases h
  · split at h
    · next hp =>
        cases h
        exact alive_pacer hI (by simp [hp]) (by simp) (fun h => nomatch h)
          (.inl (hI.pacer_free (by simp [hp])))
    · cases h
  · split at h
    · next sid rest hp hactive =>
        obtain ⟨r, hr, rfl⟩ := Option.map_eq_some_iff.mp h
        exact alive_forget hI hp hactive hr
    · cases h
  · split at h
    · next hp hactive =>
        cases h
        exact alive_pacer hI (by simp [hp]) (by simp) (fun _ => hactive)
          (.inl (hI.pacer_free (by simp [hp])))
    · cases h
  · cases h

/-! ## The pool -/

/-- Once the pool is closed, nobody submits. -/
theorem Alive.submits_of_closed {s : LifeState R N} (hI : Alive s)
    (hclosed : s.pool.tasks.closed = true) (i : ThreadPool.Thread N Caller) :
    (s.pool.doing i).submits = none := by
  have hrank := hI.opened hclosed
  match i with
  | .inl w => exact hI.tasks w
  | .inr .main =>
      rcases Nat.lt_or_ge s.main.rank 12 with hlt | hge
      · rcases hI.mainShuts (by omega) with hd | ⟨i, hd⟩ | hd
        all_goals rw [hd]; rfl
      · rw [hI.mainShut hge]
        rfl
  | .inr .pacer =>
      rw [hI.pacer_free fun rest hp => ?_]
      · rfl
      · rw [hI.pacerEnds (by omega)] at hp
        cases hp

theorem alive_inside {s : LifeState R N} {a : PoolAct N Caller} {p : PoolState N Caller}
    (hI : Alive s) (ha : a.isInside = true) (hstep : ThreadPool.step s.pool a = some p) :
    Alive { s with pool := p } := by
  have hin := ThreadPool.inside_of_step hI.pooled hI.told ha hstep
  have hmain := hin.doing (.inr .main)
  exact { hI with
    pooled := ThreadPool.pooled_step hI.pooled hstep
    told := ThreadPool.told_step hI.pooled hI.told hstep
    pacerCalls := by
      have hpacer := hin.doing (.inr .pacer)
      rcases hI.pacerCalls with hd | ⟨hsub, task, pushing, hd⟩
      · rw [hd] at hpacer
        generalize p.doing (.inr .pacer) = d at hpacer
        cases hpacer
        exact .inl rfl
      · rw [hd] at hpacer
        show p.doing (.inr .pacer) = _ ∨ _ ∧ ∃ task pushing, p.doing (.inr .pacer) = _
        generalize p.doing (.inr .pacer) = d at hpacer ⊢
        cases hpacer with
        | stays => exact .inr ⟨hsub, task, pushing, rfl⟩
        | pushes => exact .inr ⟨hsub, task, true, rfl⟩
        | resumes => exact .inl rfl
    mainCalls := fun h => by
      rw [hI.mainCalls h] at hmain
      generalize p.doing (.inr .main) = d at hmain ⊢
      cases hmain
      rfl
    unshut := fun h => hin.shutdownDone.trans (hI.unshut h)
    mainShuts := fun h => by
      rcases hI.mainShuts h with hd | ⟨i, hd⟩ | hd
      all_goals
        rw [hd] at hmain
        generalize p.doing (.inr .main) = d at hmain ⊢
        cases hmain <;> simp
    mainShut := fun h => by
      rw [hI.mainShut h] at hmain
      generalize p.doing (.inr .main) = d at hmain ⊢
      cases hmain
      rfl
    tasks := fun w => by
      have hworker := hin.doing (.inl w)
      have htasks := hI.tasks w
      generalize p.doing (.inl w) = d at hworker ⊢
      generalize s.pool.doing (.inl w) = d₀ at hworker htasks
      cases hworker with
      | stays => exact htasks
      | pushes | resumes => cases htasks
      | pops | starts | exits | joins | joined | shuts => rfl
    opened := fun hclosed => by
      rcases hin.closed hclosed with hold | ⟨k, hd⟩
      · exact hI.opened hold
      · cases k with
        | main =>
            by_contra hrank
            have hfree := hI.mainCalls (Nat.le_of_lt_succ (Nat.lt_of_not_le hrank))
            rw [hd] at hfree
            cases hfree
        | pacer =>
            rcases hI.pacerCalls with hd' | ⟨-, task, pushing, hd'⟩
            · rw [hd] at hd'
              cases hd'
            · rw [hd] at hd'
              cases hd'
    threw := by
      rcases hin.threw with hsame | ⟨hclosed, i, hsub⟩
      · exact hsame.trans hI.threw
      · exact absurd (hI.submits_of_closed hclosed i) hsub
    refs := by
      show s.route.pool.Perm (s.active ++ (unfinished p).map s.owner)
      have hsame : unfinished p = unfinished s.pool := by
        unfold unfinished
        rw [hin.next, hin.finished]
      rw [hsame]
      exact hI.refs }

/-- A task is over. -/
theorem alive_finish {s : LifeState R N} {w : Fin N} {exception : Bool} {task : Nat}
    {p : PoolState N Caller} {r : RouteState R} (hI : Alive s)
    (hd : s.pool.doing (.inl w) = .running task)
    (hstep : ThreadPool.step s.pool (.finish w exception) = some p)
    (hr : Routing.step s.route (.release (s.owner task)) = some r) :
    Alive { s with pool := p, route := r } := by
  obtain ⟨hmoves, hnext, hfinished, hdone⟩ := ThreadPool.moves_finish hd hstep
  have hothers : ∀ k, p.doing (.inr k) = s.pool.doing (.inr k) := fun k => by
    rw [hmoves.doing, Function.update_of_ne (by simp)]
  obtain ⟨hmem, rfl⟩ := release_eq hr
  exact { hI with
    pooled := ThreadPool.pooled_step hI.pooled hstep
    told := ThreadPool.told_step hI.pooled hI.told hstep
    tight := Routing.tight_step hI.tight hr
    dispatcherRests := fun h => by
      have hrests := hI.dispatcherRests h
      unfold between at hrests ⊢
      simpa only [Routing.drop_dispatcher] using hrests
    logicRests := fun h => by
      show (Routing.drop _ _).logic = _
      rw [Routing.drop_logic]
      exact hI.logicRests h
    pacerCalls := by
      rw [hothers]
      exact hI.pacerCalls
    mainCalls := fun h => (hothers _).trans (hI.mainCalls h)
    unshut := fun h => hdone.trans (hI.unshut h)
    mainShuts := fun h => by
      rw [hothers]
      exact hI.mainShuts h
    mainShut := fun h => (hothers _).trans (hI.mainShut h)
    tasks := fun v => by
      show (p.doing (.inl v)).submits = none
      rw [hmoves.doing]
      by_cases hv : v = w
      · rw [hv, Function.update_self]
        rfl
      · rw [Function.update_of_ne fun h => hv (Sum.inl.inj h)]
        exact hI.tasks v
    opened := fun h => hI.opened (hmoves.closed.symm.trans h)
    threw := hmoves.threw.trans hI.threw
    refs := by
      have hleft := ThreadPool.mem_unfinished_of_running hI.pooled hd
      have hrefs := hI.refs.trans (((List.perm_cons_erase hleft).map s.owner).append_left s.active)
      have hrefs := (hrefs.trans List.perm_middle).erase (s.owner task)
      rw [List.erase_cons_head] at hrefs
      show (Routing.drop _ _).pool.Perm (s.active ++ (unfinished p).map s.owner)
      rw [Routing.drop_pool, ThreadPool.unfinished_finish hnext hfinished]
      exact hrefs
    cleared := fun h => by
      show (Routing.drop _ _).sessions.entries = []
      rw [Routing.drop_sessions]
      exact hI.cleared h }

theorem alive_poolStep {s s' : LifeState R N} {a : Act R N} (hI : Alive s)
    (h : poolStep s a = some s') : Alive s' := by
  unfold poolStep at h
  split at h
  · split at h
    · next ha =>
        obtain ⟨p, hstep, rfl⟩ := Option.map_eq_some_iff.mp h
        exact alive_inside hI ha hstep
    · cases h
  · split at h
    · next task hd =>
        split at h
        · next hstep hr =>
            cases h
            exact alive_finish hI hd hstep hr
        · cases h
    · cases h
  · cases h

/-! ## `run()` -/

/-- `run()` goes on: it starts a thread or stops one. -/
def advance (s : LifeState R N) (m : MainPc) : LifeState R N :=
  { s with
    main := m
    logic := if s.main = .spawnLogic then .testing else s.logic
    pacer := if s.main = .spawnPacer then .testing else s.pacer
    dispatcher := if s.main = .spawnDispatcher then .testing else s.dispatcher
    logicStop := s.logicStop || s.main = .stopLogic
    pacerStop := s.pacerStop || s.main = .stopPacer
    running := s.running || s.main = .preparing
    logicEfd := if s.main = .wakeLogic then s.logicEfd + 1 else s.logicEfd }

/-- What `run()` waits for. -/
structure Joined (s : LifeState R N) : Prop where
  dispatcher : s.main = .joinDispatcher → s.dispatcher = .exited
  logic : s.main = .joinLogic → s.logic = .exited
  pacer : s.main = .joinPacer → s.pacer = .exited
  pool : s.main = .shuttingPool → s.pool.doing (.inr .main) = .shutDown
  sessions : s.main = .clearing → s.route.sessions.entries = []

theorem mainStep_cases {s s' : LifeState R N} (h : mainStep s = some s') :
    (∃ m, m.rank = s.main.rank + 1 ∧ s.main ≠ .shutPool ∧ Joined s ∧ s' = advance s m) ∨
    (s.main = .shutPool ∧ ∃ p, ThreadPool.step s.pool (.shutdown .main) = some p ∧
      s' = { s with pool := p, main := .shuttingPool }) ∨
    (s.main = .clearing ∧ ∃ r, clearNext s.route = some r ∧ s' = { s with route := r }) := by
  unfold mainStep at h
  split at h
  · next hm =>
      cases h
      exact .inl ⟨.spawnLogic, by rw [hm]; rfl, by simp [hm],
        by constructor <;> simp [hm], by simp [advance, hm]⟩
  · next hm =>
      cases h
      exact .inl ⟨.spawnPacer, by rw [hm]; rfl, by simp [hm],
        by constructor <;> simp [hm], by simp [advance, hm]⟩
  · next hm =>
      cases h
      exact .inl ⟨.spawnDispatcher, by rw [hm]; rfl, by simp [hm],
        by constructor <;> simp [hm], by simp [advance, hm]⟩
  · next hm =>
      cases h
      exact .inl ⟨.joinDispatcher, by rw [hm]; rfl, by simp [hm],
        by constructor <;> simp [hm], by simp [advance, hm]⟩
  · next hm =>
      split at h
      · next hd =>
          cases h
          exact .inl ⟨.stopLogic, by rw [hm]; rfl, by simp [hm],
            by constructor <;> simp [hm, hd], by simp [advance, hm]⟩
      · cases h
  · next hm =>
      cases h
      exact .inl ⟨.stopPacer, by rw [hm]; rfl, by simp [hm],
        by constructor <;> simp [hm], by simp [advance, hm]⟩
  · next hm =>
      cases h
      exact .inl ⟨.wakeLogic, by rw [hm]; rfl, by simp [hm],
        by constructor <;> simp [hm], by simp [advance, hm]⟩
  · next hm =>
      split at h
      · cases h
        exact .inl ⟨.joinLogic, by rw [hm]; rfl, by simp [hm],
          by constructor <;> simp [hm], by simp [advance, hm]⟩
      · cases h
  · next hm =>
      split at h
      · next hl =>
          cases h
          exact .inl ⟨.joinPacer, by rw [hm]; rfl, by simp [hm],
            by constructor <;> simp [hm, hl], by simp [advance, hm]⟩
      · cases h
  · next hm =>
      split at h
      · next hp =>
          cases h
          exact .inl ⟨.shutPool, by rw [hm]; rfl, by simp [hm],
            by constructor <;> simp [hm, hp], by simp [advance, hm]⟩
      · cases h
  · next hm =>
      obtain ⟨p, hp, rfl⟩ := Option.map_eq_some_iff.mp h
      exact .inr (.inl ⟨hm, p, hp, rfl⟩)
  · next hm =>
      split at h
      · next hd =>
          cases h
          exact .inl ⟨.clearing, by rw [hm]; rfl, by simp [hm],
            by constructor <;> simp [hm, hd], by simp [advance, hm]⟩
      · cases h
  · next hm =>
      split at h
      · next r hr =>
          cases h
          exact .inr (.inr ⟨hm, r, hr, rfl⟩)
      · next hr =>
          cases h
          have hempty : s.route.sessions.entries = [] := by
            unfold clearNext at hr
            split at hr
            · next he => exact he
            · cases hr
          exact .inl ⟨.returned, by rw [hm]; rfl, by simp [hm],
            by constructor <;> simp [hm, hempty], by simp [advance, hm]⟩
  · cases h

theorem rank_inj {m m' : MainPc} (h : m.rank = m'.rank) : m = m' := by
  cases m <;> cases m' <;> first | rfl | cases h

/-- A thread is there from the step on that starts it. -/
theorem started_advance {α : Type} {pc absent testing : α} {here m : MainPc} (spawn : MainPc)
    (hm : m.rank = here.rank + 1) (hne : testing ≠ absent)
    (h : pc = absent ↔ here.rank < spawn.rank + 1) :
    (if here = spawn then testing else pc) = absent ↔ m.rank < spawn.rank + 1 := by
  split
  · next hs =>
      rw [hm, hs]
      exact iff_of_false hne (Nat.lt_irrefl _)
  · next hs =>
      have hother : here.rank ≠ spawn.rank := fun hr => hs (rank_inj hr)
      exact h.trans (by omega)

/-- A thread that is joined has ended, and is not started again. -/
theorem joined_advance {α : Type} {pc testing exited : α} {here m : MainPc} {spawn : MainPc}
    (join : MainPc) (hlt : spawn.rank < join.rank) (hm : m.rank = here.rank + 1)
    (hjoin : here = join → pc = exited) (h : join.rank + 1 ≤ here.rank → pc = exited)
    (hle : join.rank + 1 ≤ m.rank) : (if here = spawn then testing else pc) = exited := by
  rw [if_neg fun hs => by rw [hs] at hm; omega]
  rcases Nat.lt_or_ge here.rank (join.rank + 1) with hlt | hge
  · exact hjoin (rank_inj (by omega))
  · exact h hge

/-- A stop is requested from the step on that requests it. -/
theorem stop_advance {flag : Bool} {here m : MainPc} (stop : MainPc) (hm : m.rank = here.rank + 1)
    (h : flag = true ↔ stop.rank + 1 ≤ here.rank) :
    (flag || decide (here = stop)) = true ↔ stop.rank + 1 ≤ m.rank := by
  rw [Bool.or_eq_true, decide_eq_true_iff, h]
  constructor
  · rintro (hge | rfl)
    · omega
    · exact Nat.le_of_eq hm.symm
  · intro hle
    rcases Nat.lt_or_ge here.rank (stop.rank + 1) with hlt | hge
    · exact .inr (rank_inj (by omega))
    · exact .inl hge

theorem alive_advance {s : LifeState R N} {m : MainPc} (hI : Alive s)
    (hm : m.rank = s.main.rank + 1) (hpool : s.main ≠ .shutPool) (hj : Joined s) :
    Alive (advance s m) := by
  have hrank : ∀ m', s.main.rank = m'.rank → s.main = m' := fun _ => rank_inj
  have hne : s.main.rank ≠ 10 := fun h => hpool (hrank .shutPool h)
  exact { hI with
    dispatcherStarts := started_advance .spawnDispatcher hm (by decide) hI.dispatcherStarts
    dispatcherEnds := joined_advance .joinDispatcher (by decide) hm hj.dispatcher hI.dispatcherEnds
    logicStarts := started_advance .spawnLogic hm (by decide) hI.logicStarts
    logicEnds := joined_advance .joinLogic (by decide) hm hj.logic hI.logicEnds
    pacerStarts := started_advance .spawnPacer hm (by decide) hI.pacerStarts
    pacerEnds := joined_advance .joinPacer (by decide) hm hj.pacer hI.pacerEnds
    logicStop := stop_advance .stopLogic hm hI.logicStop
    pacerStop := stop_advance .stopPacer hm hI.pacerStop
    dispatcherRests := fun h => hI.dispatcherRests fun control hd => h control (by
      show (if s.main = .spawnDispatcher then .testing else s.dispatcher) = _
      rw [if_neg fun hs => ?_, hd]
      have hfour := hI.rank_handling hd
      rw [hs] at hfour
      cases hfour)
    logicRests := fun h => hI.logicRests fun hl => h (by
      show (if s.main = .spawnLogic then .testing else s.logic) = _
      rw [if_neg fun hs => ?_, hl]
      have habsent := hI.logicStarts.mpr (by rw [hs]; decide)
      rw [hl] at habsent
      cases habsent)
    pacerRests := fun h => by
      change (if s.main = .spawnPacer then PacerPc.testing else s.pacer).hasSnapshot = false at h
      split at h
      · next hs =>
          refine hI.pacerRests ?_
          rw [hI.pacerStarts.mpr (by rw [hs]; decide)]
          rfl
      · exact hI.pacerRests h
    pacerCalls := hI.pacerCalls.imp_right fun ⟨⟨rest, hp⟩, hd⟩ => ⟨⟨rest, by
      show (if s.main = .spawnPacer then .testing else s.pacer) = _
      rw [if_neg fun hs => ?_, hp]
      have habsent := hI.pacerStarts.mpr (by rw [hs]; decide)
      rw [hp] at habsent
      cases habsent⟩, hd⟩
    mainCalls := fun h => hI.mainCalls (by change m.rank ≤ 10 at h; omega)
    unshut := fun h => hI.unshut (by change m.rank ≤ 10 at h; omega)
    mainShuts := fun h => by
      change m.rank = 11 at h
      omega
    mainShut := fun h => by
      change 12 ≤ m.rank at h
      rcases Nat.lt_or_ge s.main.rank 12 with hlt | hge
      · exact hj.pool (hrank .shuttingPool (show s.main.rank = 11 by omega))
      · exact hI.mainShut hge
    opened := fun h => by
      have hrank := hI.opened h
      show 11 ≤ m.rank
      omega
    cleared := fun h => by
      change m = .returned at h
      refine hj.sessions (hrank .clearing ?_)
      rw [h] at hm
      show s.main.rank = 12
      exact (Nat.succ.inj hm).symm }

/-- `pacer_pool_.shutdown()` is called. -/
theorem alive_shutdown {s : LifeState R N} {p : PoolState N Caller} (hI : Alive s)
    (hm : s.main = .shutPool) (hstep : ThreadPool.step s.pool (.shutdown .main) = some p) :
    Alive { s with pool := p, main := .shuttingPool } := by
  have hrank : s.main.rank = 10 := by
    rw [hm]
    rfl
  obtain ⟨hmoves, hnext, hfinished⟩ :=
    ThreadPool.moves_shutdown (hI.mainCalls (by omega)) (hI.unshut (by omega)) hstep
  have hlt : ∀ n, n ≤ 10 → (s.main.rank < n ↔ 11 < n) := fun n hn => by omega
  have hle : ∀ n, n ≤ 10 → (n ≤ s.main.rank ↔ n ≤ 11) := fun n hn => by omega
  have hothers : ∀ i, i ≠ .inr .main → p.doing i = s.pool.doing i := fun i hi => by
    rw [hmoves.doing, Function.update_of_ne hi]
  exact { hI with
    pooled := ThreadPool.pooled_step hI.pooled hstep
    told := ThreadPool.told_step hI.pooled hI.told hstep
    dispatcherStarts := hI.dispatcherStarts.trans (hlt 4 (by decide))
    dispatcherEnds := fun _ => hI.dispatcherEnds (by omega)
    logicStarts := hI.logicStarts.trans (hlt 2 (by decide))
    logicEnds := fun _ => hI.logicEnds (by omega)
    pacerStarts := hI.pacerStarts.trans (hlt 3 (by decide))
    pacerEnds := fun _ => hI.pacerEnds (by omega)
    logicStop := hI.logicStop.trans (hle 6 (by decide))
    pacerStop := hI.pacerStop.trans (hle 7 (by decide))
    pacerCalls := by
      rw [hothers _ (by simp)]
      exact hI.pacerCalls
    mainCalls := fun h => absurd (show 11 ≤ 10 from h) (by decide)
    unshut := fun h => absurd (show 11 ≤ 10 from h) (by decide)
    mainShuts := fun _ => .inl (by rw [hmoves.doing, Function.update_self])
    mainShut := fun h => absurd (show 12 ≤ 11 from h) (by decide)
    tasks := fun w => by
      rw [hothers _ (by simp)]
      exact hI.tasks w
    opened := fun _ => Nat.le_refl 11
    threw := hmoves.threw.trans hI.threw
    refs := by
      show s.route.pool.Perm (s.active ++ (unfinished p).map s.owner)
      have hsame : unfinished p = unfinished s.pool := by
        unfold unfinished
        rw [hnext, hfinished]
      rw [hsame]
      exact hI.refs
    cleared := fun h => nomatch h }

/-- A session is destroyed. -/
theorem alive_clear {s : LifeState R N} {r : RouteState R} (hI : Alive s)
    (hm : s.main = .clearing) (hr : clearNext s.route = some r) :
    Alive { s with route := r } := by
  unfold clearNext at hr
  split at hr
  · cases hr
  · next e rest he =>
      cases hr
      have hexited := hI.dispatcherEnds (by rw [hm]; decide)
      have hidle : s.route.dispatcher = .idle := by
        have hrests := hI.dispatcherRests (by simp [hexited])
        unfold between at hrests
        split at hrests
        · next h => exact h
        · cases hrests
      have hl : s.route.sessions.lookup e.1 = some e.2 :=
        AList.mem_lookup_iff.mpr (by rw [he]; exact List.mem_cons_self)
      have htight := Routing.tight_erase hI.tight hidle hl
      rw [← hidle] at htight
      exact { hI with
        tight := htight
        dispatcherRests := fun h => by
          have hrests := hI.dispatcherRests h
          unfold between at hrests ⊢
          simpa only [Routing.drop_dispatcher] using hrests
        logicRests := fun h => by
          show (Routing.drop _ _).logic = _
          rw [Routing.drop_logic]
          exact hI.logicRests h
        refs := by
          show (Routing.drop _ _).pool.Perm _
          rw [Routing.drop_pool]
          exact hI.refs
        cleared := fun h => by
          rw [show s.main = .returned from h] at hm
          cases hm }

theorem alive_mainStep {s s' : LifeState R N} (hI : Alive s) (h : mainStep s = some s') :
    Alive s' := by
  rcases mainStep_cases h with ⟨m, hm, hpool, hj, rfl⟩ | ⟨hm, p, hp, rfl⟩ |
    ⟨hm, r, hr, rfl⟩
  · exact alive_advance hI hm hpool hj
  · exact alive_shutdown hI hm hp
  · exact alive_clear hI hm hr

theorem alive_step {s s' : LifeState R N} {a : Act R N} (hI : Alive s) (h : step s a = some s') :
    Alive s' := by
  unfold step at h
  split at h
  · exact alive_mainStep hI h
  · rcases Option.or_eq_some_iff.mp h with h | ⟨-, h⟩
    · rcases Option.or_eq_some_iff.mp h with h | ⟨-, h⟩
      · rcases Option.or_eq_some_iff.mp h with h | ⟨-, h⟩
        · rcases Option.or_eq_some_iff.mp h with h | ⟨-, h⟩
          · exact alive_outside hI h
          · exact alive_dispatcherStep hI h
        · exact alive_logicStep hI h
      · exact alive_pacerStep hI h
    · exact alive_poolStep hI h

theorem alive_of_run {as : List (Act R N)} {s : LifeState R N}
    (h : Lts.run step init as = some s) : Alive s :=
  Lts.run_stable (fun _ _ _ hI h => alive_step hI h) alive_init h

/-! ## The end -/

/-- **No task is refused and none outlives its session**: in every run, up to the end of `run()`
    and beyond, no submit of the pacer has thrown, and the descriptor of a session with a task
    that is queued or running is open. -/
theorem tasks_safe {as : List (Act R N)} {s : LifeState R N}
    (h : Lts.run step init as = some s) :
    s.pool.threw = [] ∧
      ∀ task < s.pool.next, task ∉ s.pool.finished → s.route.fdOf (s.owner task) ∈ s.route.openFds := by
  have hI := alive_of_run h
  refine ⟨hI.threw, fun task hlt hleft => ?_⟩
  have hmem : task ∈ unfinished s.pool :=
    List.mem_filter.mpr ⟨List.mem_range.mpr hlt, by simpa using hleft⟩
  have hpool : s.owner task ∈ s.route.pool :=
    hI.refs.mem_iff.mpr (List.mem_append_right _ (List.mem_map_of_mem hmem))
  exact (hI.tight.mem_openFds _).mpr ⟨_, Routing.referenced_of_pool hpool, rfl⟩

/-- What is left when `run()` has returned. -/
structure Ended (s : LifeState R N) : Prop where
  dispatcher : s.dispatcher = .exited
  logic : s.logic = .exited
  pacer : s.pacer = .exited
  workers : ∀ w, s.pool.doing (.inl w) = .exited
  /-- every task that was submitted has run, and none twice -/
  tasks : ∀ t, s.pool.finished.count t = if t < s.pool.next then 1 else 0
  sessions : s.route.sessions.entries = []
  openFds : s.route.openFds = []

/-- All tasks are finished when the pool is shut down. -/
theorem finished_of_shutDown (hN : 0 < N) {s : LifeState R N} (hI : Alive s)
    (hshut : s.pool.doing (.inr .main) = .shutDown) (t : Nat) :
    s.pool.finished.count t = if t < s.pool.next then 1 else 0 := by
  have hclosed : s.pool.tasks.closed = true := hI.told (.inr .main) (.inr (by
    unfold ThreadPool.places
    rw [hshut]
    rfl))
  have hsub : ∀ i, (s.pool.doing i).submits = none := hI.submits_of_closed hclosed
  have hworkers := hI.pooled.shut _ hshut
  have hdrained : s.pool.finished.count t = s.pool.tasks.pushLog.count t := by
    refine ThreadPool.finished_of_drained hI.pooled
      (hI.pooled.ended (.inl ⟨0, hN⟩) (.inl (hworkers _))).2 (fun i => ?_) (fun i => ?_) t
    · cases i with
      | inl w =>
          exact ThreadPool.heldTask_of_linked (hI.pooled.linked _)
            (by rw [hworkers w]; exact fun h => nomatch h)
      | inr k => exact (ThreadPool.client_idle hI.pooled k).1
    · cases i with
      | inl w =>
          rw [hworkers w]
          rfl
      | inr k => exact (ThreadPool.client_idle hI.pooled k).2
  have hsubmits := hI.pooled.submits t
  have hpushes := hI.pooled.pushes t
  rw [Threads.total_eq_zero fun i => ThreadPool.submitW_none (hsub i) t, hI.threw,
    List.count_nil] at hsubmits
  rw [Threads.total_eq_zero fun i =>
    ThreadPool.putW_none (ThreadPool.pushes_of_submits (hsub i)) t] at hpushes
  omega

/-- **When `run()` returns, nothing is left**: the threads and the workers are gone, every task
    that was submitted has run exactly once, no session is left and every descriptor of a client
    is closed, whoever stopped the server and whatever it was doing. -/
theorem shutdown_clean (hN : 0 < N) {as : List (Act R N)} {s : LifeState R N}
    (h : Lts.run step init as = some s) (hret : s.main = .returned) : Ended s := by
  have hI := alive_of_run h
  have hrank : s.main.rank = 13 := by
    rw [hret]
    rfl
  have hshut := hI.mainShut (by omega)
  have hfinished := finished_of_shutDown hN hI hshut
  have hdispatcher := hI.dispatcherEnds (by omega)
  have hlogic := hI.logicEnds (by omega)
  have hpacer := hI.pacerEnds (by omega)
  have hpool : s.route.pool = [] := by
    have hnone : unfinished s.pool = [] := by
      refine List.filter_eq_nil_iff.mpr fun t ht => ?_
      have hone := hfinished t
      rw [if_pos (List.mem_range.mp ht)] at hone
      have hmem : t ∈ s.pool.finished := List.count_pos_iff.mp (by omega)
      simp [hmem]
    have hrefs := hI.refs
    rw [hI.pacerRests (by rw [hpacer]; rfl), hnone] at hrefs
    exact hrefs.eq_nil
  refine ⟨hdispatcher, hlogic, hpacer, hI.pooled.shut _ hshut, hfinished, hI.cleared hret, ?_⟩
  refine List.eq_nil_iff_forall_not_mem.mpr fun fd hfd => ?_
  obtain ⟨sid, href, -⟩ := (hI.tight.mem_openFds fd).mp hfd
  rcases Routing.referenced_iff.mp href with ⟨fd', hl⟩ | hd | hl | hp
  · have hmem := AList.mem_lookup_iff.mp hl
    rw [hI.cleared hret] at hmem
    cases hmem
  · have hrests := hI.dispatcherRests (by simp [hdispatcher])
    unfold between at hrests
    split at hrests
    · next hidle =>
        rw [hidle] at hd
        cases hd
    · cases hrests
  · rw [hI.logicRests (by simp [hlogic])] at hl
    cases hl
  · rw [hpool] at hp
    cases hp

/-- The worker of a pool of one. -/
def sole : Fin 1 := Fin.last 0

/-- A client connects and a task of its session runs, with an exception, while the server is being
    stopped. -/
def servedRun : List (Act String 1) :=
  [.main, .main, .main, .main, .testRunning, .events none, .serve (.accept 5), .serve .emplace,
    .serve (.register true), .handled, .testPacer, .tick, .wokenPacer, .snapshot [0], .submit,
    .pool (.queue (.lock (.inr .pacer))), .pool (.queue (.work (.inr .pacer))),
    .pool (.queue (.unlock (.inr .pacer))), .pool (.checked (.inr .pacer)),
    .pool (.queue (.lock (.inr .pacer))), .pool (.queue (.work (.inr .pacer))),
    .pool (.queue (.unlock (.inr .pacer))), .pool (.queue (.notifyOne (.inr .pacer) none)),
    .pool (.submitted (.inr .pacer)), .submitted, .looped, .forget, .released, .stop, .wake,
    .testRunning] ++
  [.main, .main, .main, .main, .testLogic, .main, .testPacer, .main,
    .pool (.pop sole), .pool (.queue (.lock (.inl sole))), .pool (.queue (.work (.inl sole))),
    .pool (.queue (.notifyOne (.inl sole) none)), .pool (.queue (.unlock (.inl sole))),
    .pool (.popped sole), .main, .pool (.queue (.lock (.inr .main))),
    .pool (.queue (.work (.inr .main))), .pool (.queue (.unlock (.inr .main))), .finish sole true,
    .pool (.pop sole), .pool (.queue (.notifyAll (.inr .main))),
    .pool (.queue (.notifyAll (.inr .main))), .pool (.closed .main),
    .pool (.queue (.lock (.inl sole))), .pool (.queue (.work (.inl sole))),
    .pool (.queue (.unlock (.inl sole))), .pool (.popped sole), .pool (.join .main),
    .pool (.join .main), .main, .main, .main]

theorem shutdown_clean_servedRun : ∃ s, Lts.run step init servedRun = some s ∧ Ended s ∧
    s.route.next = 1 ∧ s.pool.finished = [0] :=
  ⟨_, rfl, @shutdown_clean String 1 Nat.one_pos servedRun _ rfl rfl, rfl, rfl⟩

/-- The task is in the queue. -/
theorem tasks_safe_servedRun : ∃ s, Lts.run step init (servedRun.take 30) = some s ∧
    s.pool.next = 1 ∧ s.pool.finished = [] ∧ s.pool.threw = [] ∧
      s.route.fdOf (s.owner 0) ∈ s.route.openFds :=
  ⟨_, rfl, rfl, rfl, (@tasks_safe String 1 (servedRun.take 30) _ rfl).1,
    (@tasks_safe String 1 (servedRun.take 30) _ rfl).2 0 (by decide) (by decide)⟩

end RtspServer.Lifecycle
