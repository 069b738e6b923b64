/-
  How the Dispatcher wakes the Logic thread, and the Logic thread the pacer: the threads of
  `Routing` with the two eventfds between them. After each push to `cmd_queue_` the Dispatcher
  writes 1 to `logic_efd_`. The Logic thread blocks in a read that resets the counter, drains
  the queue until `try_pop` finds nothing, and reads again; after each `pushCommand` it writes 1
  to `pacer_efd_`.

  `not_stranded`: when the Logic thread is blocked on a zero counter and the Dispatcher is not
  between its push and its write, `cmd_queue_` is empty; and what the Logic thread does is a
  sequence of rounds, each of which pushes the request to the session it found before it writes
  to the pacer's eventfd.
-/
import RtspServer.Server.Routing

namespace RtspServer.Routing

variable {R : Type}

/-- What the Logic thread does, one entry for each of its calls. -/
inductive LogicEvent (R : Type) where
  | popped (m : Msg R)
  /-- `sessions_.find`, with its result -/
  | looked (m : Msg R) (found : Option Nat)
  /-- `pushCommand` -/
  | pushed (m : Msg R) (sid : Nat)
  /-- the write to `pacer_efd_` -/
  | signalled

/-- The threads with the counters of the eventfds. -/
structure WakeState (R : Type) where
  route : RouteState R
  logicEfd : Nat
  pacerEfd : Nat
  /-- the Dispatcher has pushed, its write is next -/
  owesLogic : Bool
  /-- the Logic thread has read the counter and not yet found the queue empty -/
  draining : Bool
  /-- the Logic thread has pushed the request, its write is next -/
  owesPacer : Bool
  log : List (LogicEvent R)

def wakeInit : WakeState R :=
  { route := init, logicEfd := 0, pacerEfd := 0, owesLogic := false, draining := false
    owesPacer := false, log := [] }

/-- The largest value of an eventfd's counter. -/
def efdMax : Nat := 0xfffffffffffffffe

inductive WakeAct (R : Type) where
  /-- a step of a thread that touches no eventfd -/
  | thread (a : Act R)
  /-- the Dispatcher's write to `logic_efd_` -/
  | writeLogic
  /-- the Logic thread's read returns -/
  | readLogic
  /-- `try_pop` returns nothing -/
  | drained
  /-- the Logic thread's write to `pacer_efd_` -/
  | writePacer
  /-- the pacer's read -/
  | readPacer

/-- Whether the thread is at this call: the Dispatcher writes after each push, the Logic thread
    pops after its read and goes on after its write. -/
def ready (s : WakeState R) : Act R → Bool
  | .accept _ | .emplace | .register _ | .find _ | .read _ | .push | .close _ | .leave =>
      !s.owesLogic
  | .pop => s.draining
  | .logicLeave => !s.owesPacer
  | .route | .pushCommand | .acquire _ | .release _ => true

@[simp] def Act.isPush : Act R → Bool
  | .push => true
  | _ => false

@[simp] def Act.isPushCommand : Act R → Bool
  | .pushCommand => true
  | _ => false

/-- What a step of the Logic thread adds to the log. -/
def eventsOf (s : RouteState R) : Act R → List (LogicEvent R)
  | .pop => (s.cmdQueue.take 1).map .popped
  | .route => s.logic.waiting.map fun m => .looked m (s.sessions.lookup m.fd)
  | .pushCommand =>
      match s.logic with
      | .holding sid m => [.pushed m sid]
      | _ => []
  | _ => []

def wakeStep (s : WakeState R) : WakeAct R → Option (WakeState R)
  | .thread a =>
      if ready s a then
        match step s.route a with
        | none => none
        | some r => some
            { s with
              route := r, log := s.log ++ eventsOf s.route a
              owesLogic := s.owesLogic || a.isPush, owesPacer := s.owesPacer || a.isPushCommand }
      else none
  | .writeLogic =>
      -- a write that would overflow blocks
      if s.owesLogic ∧ s.logicEfd < efdMax then
        some { s with logicEfd := s.logicEfd + 1, owesLogic := false }
      else none
  | .readLogic =>
      match s.route.logic with
      | .idle =>
          -- a read of a zero counter blocks
          if ¬ s.draining ∧ 0 < s.logicEfd then some { s with logicEfd := 0, draining := true }
          else none
      | _ => none
  | .drained =>
      match s.route.logic with
      | .idle =>
          if s.draining ∧ s.route.cmdQueue.isEmpty then some { s with draining := false } else none
      | _ => none
  | .writePacer =>
      -- `EFD_NONBLOCK`: a write that would overflow fails
      if s.owesPacer then
        some { s with
          pacerEfd := min (s.pacerEfd + 1) efdMax, owesPacer := false, log := s.log ++ [.signalled] }
      else none
  | .readPacer => some { s with pacerEfd := 0 }

/-! ## What the steps of the threads leave alone -/

@[simp] theorem drop_cmdQueue (s : RouteState R) (sid : Nat) :
    (drop s sid).cmdQueue = s.cmdQueue := by
  unfold drop
  split <;> rfl

@[simp] theorem drop_logic (s : RouteState R) (sid : Nat) : (drop s sid).logic = s.logic := by
  unfold drop
  split <;> rfl

@[simp] theorem drop_pushed (s : RouteState R) (sid : Nat) : (drop s sid).pushed = s.pushed := by
  unfold drop
  split <;> rfl

/-- A step of another thread: the Logic thread stays where it is, and the queue only grows by a
    push. -/
structure Spares (s s' : RouteState R) (a : Act R) : Prop where
  logic : s'.logic = s.logic
  pushed : s'.pushed = s.pushed
  cmdQueue : a = .push ∨ s'.cmdQueue = s.cmdQueue
  events : eventsOf s a = []
  other : a.isPushCommand = false

theorem spares_dispatcherStep {s s' : RouteState R} {a : Act R}
    (h : dispatcherStep s a = some s') : Spares s s' a := by
  unfold dispatcherStep at h
  split at h
  all_goals (repeat' split at h)
  all_goals cases h
  all_goals exact ⟨by simp, by simp, by simp, rfl, rfl⟩

theorem spares_poolStep {s s' : RouteState R} {a : Act R} (h : poolStep s a = some s') :
    Spares s s' a := by
  unfold poolStep at h
  split at h
  all_goals (repeat' split at h)
  all_goals cases h
  all_goals exact ⟨by simp, by simp, by simp, rfl, rfl⟩

/-- A step is one of the Logic thread or leaves it alone. -/
theorem spares_or_logic {s s' : RouteState R} {a : Act R} (h : step s a = some s') :
    Spares s s' a ∨ logicStep s a = some s' := by
  unfold step at h
  rcases Option.or_eq_some_iff.mp h with h | ⟨-, h⟩
  · rcases Option.or_eq_some_iff.mp h with h | ⟨-, h⟩
    · exact .inl (spares_dispatcherStep h)
    · exact .inr h
  · exact .inl (spares_poolStep h)

/-! ## Rounds -/

/-- What the Logic thread does with one request. -/
def round (m : Msg R) : Option Nat → List (LogicEvent R)
  | none => [.popped m, .looked m none]
  | some sid => [.popped m, .looked m (some sid), .pushed m sid, .signalled]

/-- The events of the round that is under way. -/
def Underway (s : WakeState R) (last : List (LogicEvent R)) : Prop :=
  match s.route.logic with
  | .idle => last = [] ∧ s.owesPacer = false
  | .popped m => last = [.popped m] ∧ s.owesPacer = false
  | .holding sid m => last = [.popped m, .looked m (some sid)] ∧ s.owesPacer = false
  | .leaving sid =>
      ∃ m, last = [.popped m, .looked m (some sid), .pushed m sid] ++
        if s.owesPacer then [] else [.signalled]

/-- What the log says that was pushed to a session. -/
def pushedTo (sid : Nat) (log : List (LogicEvent R)) : List (Msg R) :=
  log.filterMap fun
    | .pushed m i => if i = sid then some m else none
    | _ => none

/-- What holds in every state. -/
structure Awake (s : WakeState R) : Prop where
  /-- a request in the queue is about to be popped, or a wake-up is there or about to be -/
  wake : s.draining = true ∨ 0 < s.logicEfd ∨ s.owesLogic = true ∨ s.route.cmdQueue = []
  rounds : ∃ rounds : List (Msg R × Option Nat), ∃ last,
    s.log = rounds.flatMap (fun r => round r.1 r.2) ++ last ∧ Underway s last
  pushed : ∀ sid, s.route.pushed sid = pushedTo sid s.log

theorem awake_init : Awake (wakeInit : WakeState R) :=
  ⟨.inr (.inr (.inr rfl)), ⟨[], [], rfl, rfl, rfl⟩, fun _ => rfl⟩

@[simp] theorem pushedTo_append (sid : Nat) (l m : List (LogicEvent R)) :
    pushedTo sid (l ++ m) = pushedTo sid l ++ pushedTo sid m := List.filterMap_append

/-- A step of another thread. -/
theorem awake_spares {s : WakeState R} {r : RouteState R} {a : Act R} {owes : Bool}
    (hI : Awake s) (h : Spares s.route r a) (howes : a = .push → owes = true)
    (hkeep : s.owesLogic = true → owes = true) :
    Awake { s with route := r, owesLogic := owes } := by
  refine ⟨?_, ?_, fun sid => ?_⟩
  · dsimp only
    rcases h.cmdQueue with rfl | hq
    · exact .inr (.inr (.inl (howes rfl)))
    · rw [hq]
      exact hI.wake.imp_right (Or.imp_right (Or.imp_left hkeep))
  · obtain ⟨rounds, last, hlog, hlast⟩ := hI.rounds
    refine ⟨rounds, last, hlog, ?_⟩
    unfold Underway at hlast ⊢
    dsimp only
    rw [h.logic]
    exact hlast
  · dsimp only
    rw [h.pushed]
    exact hI.pushed sid

/-- The Logic thread goes on without a `pushCommand`. -/
theorem awake_moves {s s' : WakeState R} {ev : List (LogicEvent R)} (hI : Awake s)
    (hwake : s'.draining = true ∨ 0 < s'.logicEfd ∨ s'.owesLogic = true ∨ s'.route.cmdQueue = [])
    (hlog : s'.log = s.log ++ ev) (hpushed : s'.route.pushed = s.route.pushed)
    (hev : ∀ sid, pushedTo sid ev = [])
    (hround : ∀ last, Underway s last → ∃ rounds : List (Msg R × Option Nat), ∃ last',
      last ++ ev = rounds.flatMap (fun r => round r.1 r.2) ++ last' ∧ Underway s' last') :
    Awake s' := by
  refine ⟨hwake, ?_, fun sid => ?_⟩
  · obtain ⟨rounds, last, hs, hlast⟩ := hI.rounds
    obtain ⟨more, last', hmore, hlast'⟩ := hround last hlast
    refine ⟨rounds ++ more, last', ?_, hlast'⟩
    rw [hlog, hs, List.append_assoc, hmore, List.flatMap_append, List.append_assoc]
  · rw [hpushed, hlog, pushedTo_append, hev, List.append_nil]
    exact hI.pushed sid

theorem awake_pushCommand {s : WakeState R} {sid : Nat} {m : Msg R} (hI : Awake s)
    (hl : s.route.logic = .holding sid m) :
    Awake { s with
      route := { s.route with
        pushed := Function.update s.route.pushed sid (s.route.pushed sid ++ [m])
        logic := .leaving sid }
      log := s.log ++ [.pushed m sid], owesPacer := true } := by
  refine ⟨hI.wake, ?_, fun i => ?_⟩
  · obtain ⟨rounds, last, hs, hlast⟩ := hI.rounds
    unfold Underway at hlast
    rw [hl] at hlast
    obtain ⟨rfl, -⟩ := hlast
    refine ⟨rounds, [.popped m, .looked m (some sid), .pushed m sid], ?_, m, rfl⟩
    rw [hs, List.append_assoc]
    rfl
  · dsimp only
    rw [pushedTo_append, ← hI.pushed i]
    by_cases hi : i = sid
    · rw [hi, Function.update_self]
      simp [pushedTo]
    · rw [Function.update_of_ne hi]
      simp [pushedTo, Ne.symm hi]

theorem awake_thread {s s' : WakeState R} {a : Act R} (hI : Awake s)
    (h : wakeStep s (.thread a) = some s') : Awake s' := by
  rw [wakeStep] at h
  split at h
  · next hready =>
      split at h
      · cases h
      · next r hr =>
          cases h
          rcases spares_or_logic hr with hsp | hlogic
          · rw [hsp.events, List.append_nil, hsp.other, Bool.or_false]
            refine awake_spares hI hsp (fun ha => ?_) fun howes => ?_
            · rw [ha]
              exact Bool.or_true _
            · rw [howes, Bool.true_or]
          · cases a with
            | pop =>
                rw [logicStep] at hlogic
                split at hlogic
                · next m rest hl hq =>
                    cases hlogic
                    refine awake_moves hI (.inl hready) rfl rfl (fun sid => ?_) fun last hlast => ?_
                    · rw [eventsOf, hq]
                      rfl
                    · unfold Underway at hlast
                      rw [hl] at hlast
                      obtain ⟨rfl, howes⟩ := hlast
                      refine ⟨[], [.popped m], ?_, rfl, ?_⟩
                      · rw [eventsOf, hq]
                        rfl
                      · rw [howes]
                        rfl
                · cases hlogic
            | route =>
                rw [logicStep] at hlogic
                split at hlogic
                · next m hl =>
                    have hev : eventsOf s.route .route =
                        [.looked m (s.route.sessions.lookup m.fd)] := by
                      rw [eventsOf, hl]
                      rfl
                    have hlast : ∀ last, Underway s last →
                        last = [.popped m] ∧ s.owesPacer = false := by
                      intro last hlast
                      unfold Underway at hlast
                      rwa [hl] at hlast
                    split at hlogic
                    · next sid hs =>
                        cases hlogic
                        refine awake_moves hI ?_ rfl rfl (fun _ => ?_) fun last h => ?_
                        · simpa using hI.wake
                        · rw [hev]
                          rfl
                        · obtain ⟨rfl, howes⟩ := hlast last h
                          refine ⟨[], [.popped m, .looked m (some sid)], ?_, rfl, ?_⟩
                          · rw [hev, hs]
                            rfl
                          · rw [howes]
                            rfl
                    · next hs =>
                        cases hlogic
                        refine awake_moves hI ?_ rfl rfl (fun _ => ?_) fun last h => ?_
                        · simpa using hI.wake
                        · rw [hev]
                          rfl
                        · obtain ⟨rfl, howes⟩ := hlast last h
                          refine ⟨[(m, none)], [], ?_, rfl, ?_⟩
                          · rw [hev, hs]
                            rfl
                          · rw [howes]
                            rfl
                · cases hlogic
            | pushCommand =>
                rw [logicStep] at hlogic
                split at hlogic
                · next sid m hl =>
                    cases hlogic
                    have hev : eventsOf s.route .pushCommand = [.pushed m sid] := by
                      rw [eventsOf, hl]
                    have hpush := awake_pushCommand hI hl
                    simpa only [hev, Act.isPush, Act.isPushCommand, Bool.or_true, Bool.or_false]
                      using hpush
                · cases hlogic
            | logicLeave =>
                rw [logicStep] at hlogic
                split at hlogic
                · next sid hl =>
                    cases hlogic
                    have howes : s.owesPacer = false := by simpa [ready] using hready
                    refine awake_moves hI ?_ rfl (drop_pushed _ _) (fun _ => rfl) fun last h => ?_
                    · simpa using hI.wake
                    · unfold Underway at h
                      rw [hl, howes] at h
                      obtain ⟨m, rfl⟩ := h
                      refine ⟨[(m, some sid)], [], rfl, ?_⟩
                      unfold Underway
                      rw [drop_logic]
                      exact ⟨rfl, by rw [howes]; rfl⟩
                · cases hlogic
            | accept | emplace | register | find | read | push | close | leave | acquire
            | release => cases hlogic
  · cases h

theorem awake_step {s s' : WakeState R} {a : WakeAct R} (hI : Awake s)
    (h : wakeStep s a = some s') : Awake s' := by
  cases a with
  | thread a => exact awake_thread hI h
  | writeLogic =>
      rw [wakeStep] at h
      split at h
      · cases h
        exact ⟨.inr (.inl (Nat.succ_pos _)), hI.rounds, hI.pushed⟩
      · cases h
  | readLogic =>
      rw [wakeStep] at h
      split at h
      · split at h
        · cases h
          exact ⟨.inl rfl, hI.rounds, hI.pushed⟩
        · cases h
      · cases h
  | drained =>
      rw [wakeStep] at h
      split at h
      · split at h
        · next hq =>
            cases h
            exact ⟨.inr (.inr (.inr (List.isEmpty_iff.mp hq.2))), hI.rounds, hI.pushed⟩
        · cases h
      · cases h
  | writePacer =>
      rw [wakeStep] at h
      split at h
      · next howes =>
          cases h
          refine awake_moves hI hI.wake rfl rfl (fun _ => rfl) fun last hlast => ?_
          unfold Underway at hlast
          split at hlast
          · exact absurd (howes.symm.trans hlast.2) (by decide)
          · exact absurd (howes.symm.trans hlast.2) (by decide)
          · exact absurd (howes.symm.trans hlast.2) (by decide)
          · next sid hl =>
              obtain ⟨m, rfl⟩ := hlast
              refine ⟨[], round m (some sid), ?_, ?_⟩
              · rw [howes]
                rfl
              · unfold Underway
                dsimp only
                rw [hl]
                exact ⟨m, rfl⟩
      · cases h
  | readPacer =>
      cases h
      exact ⟨hI.wake, hI.rounds, hI.pushed⟩

/-! ## Runs -/

/-- The Logic thread is in its read, on a zero counter. -/
def Blocked (s : WakeState R) : Prop :=
  s.route.logic = .idle ∧ s.draining = false ∧ s.logicEfd = 0

/-- The log is a sequence of rounds, the last one possibly under way. -/
def InRounds (log : List (LogicEvent R)) : Prop :=
  ∃ rounds : List (Msg R × Option Nat), ∃ last,
    log = rounds.flatMap (fun r => round r.1 r.2) ++ last ∧
      (last = [] ∨ ∃ m found, last <+: round m found)

theorem prefix_of_underway {s : WakeState R} {last : List (LogicEvent R)} (h : Underway s last) :
    last = [] ∨ ∃ m found, last <+: round m found := by
  unfold Underway at h
  split at h
  · exact .inl h.1
  · next m _ =>
      rw [h.1]
      exact .inr ⟨m, none, [.looked m none], rfl⟩
  · next sid m _ =>
      rw [h.1]
      exact .inr ⟨m, some sid, [.pushed m sid, .signalled], rfl⟩
  · next sid _ =>
      obtain ⟨m, rfl⟩ := h
      refine .inr ⟨m, some sid, ?_⟩
      split
      · exact ⟨[.signalled], rfl⟩
      · exact List.prefix_refl _

/-- **No request is stranded**, in every run of the threads: with the Logic thread blocked and the
    Dispatcher past its write, the queue is empty. And a request that was popped is pushed to the
    session that was found for it before the pacer's eventfd is written. -/
theorem not_stranded {as : List (WakeAct R)} {s : WakeState R}
    (h : Lts.run wakeStep wakeInit as = some s) :
    (Blocked s → s.owesLogic = false → s.route.cmdQueue = []) ∧ InRounds s.log ∧
      ∀ sid, s.route.pushed sid = pushedTo sid s.log := by
  have hI : Awake s := Lts.run_stable (fun _ _ _ hI h => awake_step hI h) awake_init h
  refine ⟨fun hblocked howes => ?_, ?_, hI.pushed⟩
  · obtain ⟨-, hdraining, hefd⟩ := hblocked
    rcases hI.wake with hw | hw | hw | hw
    · exact absurd (hdraining.symm.trans hw) (by decide)
    · exact absurd hefd (Nat.ne_of_gt hw)
    · exact absurd (howes.symm.trans hw) (by decide)
    · exact hw
  · obtain ⟨rounds, last, hlog, hlast⟩ := hI.rounds
    exact ⟨rounds, last, hlog, prefix_of_underway hlast⟩

/-- Two requests of one read; the second is pushed while the Logic thread drains, so that its
    write is left for a read that finds nothing. -/
def twoRequestsRun : List (WakeAct String) :=
  [.thread (.accept 5), .thread .emplace, .thread (.register true), .thread (.find 5),
    .thread (.read ["OPTIONS", "TEARDOWN"]), .thread .push, .writeLogic, .readLogic, .thread .pop,
    .thread .push, .thread .route, .thread .pushCommand, .writePacer, .thread .logicLeave,
    .thread .pop, .writeLogic, .thread .leave, .thread .route, .thread .pushCommand, .writePacer,
    .thread .logicLeave, .drained, .readLogic, .drained]

theorem not_stranded_twoRequestsRun : ∃ s, Lts.run wakeStep wakeInit twoRequestsRun = some s ∧
    s.route.cmdQueue = [] ∧ s.log.length = 8 ∧
    (s.route.pushed 0).map (·.req) = ["OPTIONS", "TEARDOWN"] :=
  ⟨_, rfl, (@not_stranded String twoRequestsRun _ rfl).1 ⟨rfl, rfl, rfl⟩ rfl, rfl, rfl⟩

end RtspServer.Routing
