/-
  The whole server: the Dispatcher, the Logic thread, the pacer and the workers of the pool, over
  any number of connections. The threads move as in `Routing`; where a thread calls a function of
  a session, the `Connection` of that session makes its step.

  What is not a step of `Routing` already:
  * an event of a client descriptor: `onWritable`, one atomic operation after the other, and then
    `onReadable`, or `closeSession` when one of them returned false (`drain`, `readable`,
    `noInput`, `close`). A call of `onReadable` that never returns is a Dispatcher that makes no
    further step.
  * the worker's task: the commands, the pacing, and what they do to the outbox (`call`,
    `startOp`, `continueOp`). The task keeps its reference until it is done.

  `conversation_of_run`: in every run, whatever the order of the steps, what a client has read is
  a part of what its own session has pushed, and the responses it has read are those to the first
  requests that stand in the bytes it has sent, each with its number, in the order of the
  requests.
-/
import RtspServer.Server.Connection
import RtspServer.Server.LogicWake

namespace RtspServer.Reactor

open ByteString Decimal StringUtils Lines

variable {M : Type}

/-! ## Steps -/

structure ServerState (M : Type) where
  mediaRoot : Bytes
  route : Routing.RouteState RTSPRequest
  /-- the connections by the number of their session -/
  conn : Nat → Connection M

def init (mediaRoot : Bytes) : ServerState M :=
  { mediaRoot := mediaRoot, route := Routing.init
    conn := fun _ => Connection.new mediaRoot ⟨[], [], 0, 0⟩ }

inductive Act (M : Type) where
  /-- `accept4` returns the descriptor and the session is made -/
  | accept (fd : Nat) (peer : Peer)
  /-- a step of a thread that calls nothing of a session -/
  | thread (a : Routing.Act RTSPRequest)
  /-- a step of `onWritable` -/
  | drain (a : WriteWake.Act)
  /-- EPOLLIN: `onReadable`, with the results of `recv` -/
  | readable (rs : List Framer.Recv)
  /-- the event is without EPOLLIN -/
  | noInput
  /-- a hang-up, or `onWritable` returned false: `closeSession` -/
  | close (fd : Nat)
  /-- Logic: `pushCommand` -/
  | pushCommand
  /-- a worker: the next command of its session, or the pacing -/
  | call (sid : Nat) (a : Call M)
  | startOp (sid : Nat)
  | continueOp (sid : Nat) (a : WriteWake.Act)

/-- A session is replaced. -/
def ServerState.setConn (s : ServerState M) (sid : Nat) (c : Connection M) : ServerState M :=
  { s with conn := Function.update s.conn sid c }

/-- The steps of `Routing` that call nothing of a session. The last reference of the pool goes
    when the task is done. -/
def isThread (s : ServerState M) : Routing.Act RTSPRequest → Bool
  | .accept _ | .read _ | .close _ | .pushCommand => false
  | .release sid =>
      ((s.conn sid).todo.isEmpty && (s.conn sid).write.worker = .idle) ||
        2 ≤ s.route.pool.count sid
  | .emplace | .register _ | .find _ | .push | .leave | .pop | .route | .logicLeave
  | .acquire _ => true

/-- `closeSession`. -/
def closeSession (fd : Nat) (s : ServerState M) : Option (ServerState M) :=
  (Routing.step s.route (.close fd)).map fun r =>
    match s.route.sessions.lookup fd with
    | none => { s with route := r }
    | some sid => { s with route := r }.setConn sid (s.conn sid).shut

/-- The Dispatcher is at the point of a call of `closeSession` other than the one behind
    `onReadable`. -/
def mayClose (s : ServerState M) : Bool :=
  match s.route.dispatcher with
  | .idle => true
  | .reading _ sid => (s.conn sid).write.dispatcher = .failed
  | _ => false

/-- The Dispatcher serves an event and is not inside `onWritable`. -/
def serving (s : ServerState M) : Option (Nat × Nat) :=
  match s.route.dispatcher with
  | .reading fd sid => if (s.conn sid).write.dispatcher = .idle then some (fd, sid) else none
  | _ => none

/-- A worker has a task of the session. -/
def onWorker (s : ServerState M) (sid : Nat) (f : Connection M → Option (Connection M)) :
    Option (ServerState M) :=
  if sid ∈ s.route.pool then (f (s.conn sid)).map (s.setConn sid) else none

def step [IMediaSource M] (s : ServerState M) : Act M → Option (ServerState M)
  | .accept fd peer =>
      (Routing.step s.route (.accept fd)).map fun r =>
        { s with route := r }.setConn s.route.next (Connection.new s.mediaRoot peer)
  | .thread a =>
      if isThread s a then (Routing.step s.route a).map fun r => { s with route := r } else none
  | .drain a =>
      match s.route.dispatcher with
      | .reading _ sid => ((s.conn sid).drain a).map (s.setConn sid)
      | _ => none
  | .readable rs =>
      match serving s with
      | none => none
      | some (fd, sid) =>
          match Framer.onReadable rs (s.conn sid).recvBuf with
          | .returnsFalse => closeSession fd s
          | .hangs => none
          | .returnsTrue buf out =>
              (Routing.step s.route (.read out)).map fun r =>
                { s with route := r }.setConn sid ((s.conn sid).read buf (Framer.received rs))
  | .noInput =>
      match serving s with
      | none => none
      | some _ => (Routing.step s.route (.read [])).map fun r => { s with route := r }
  | .close fd => if mayClose s then closeSession fd s else none
  | .pushCommand =>
      match s.route.logic with
      | .holding sid m =>
          (Routing.step s.route .pushCommand).map fun r =>
            { s with route := r }.setConn sid ((s.conn sid).pushCommand m.req)
      | _ => none
  | .call sid a => onWorker s sid fun c => c.call a
  | .startOp sid => onWorker s sid fun c => c.startOp
  | .continueOp sid a => onWorker s sid fun c => c.continueOp a

/-! ## What the threads do to the logs -/

section

variable {s r : Routing.RouteState RTSPRequest} {a : Routing.Act RTSPRequest}

theorem drop_parsed (s : Routing.RouteState RTSPRequest) (sid : Nat) :
    (Routing.drop s sid).parsed = s.parsed := by
  unfold Routing.drop
  split <;> rfl

/-- Only `onReadable` puts requests out and only `pushCommand` pushes them to a session. -/
theorem same_logs (hread : ∀ reqs, a ≠ .read reqs) (hpush : a ≠ .pushCommand)
    (h : Routing.step s a = some r) : r.parsed = s.parsed ∧ r.pushed = s.pushed := by
  unfold Routing.step at h
  rcases Option.or_eq_some_iff.mp h with h | ⟨-, h⟩
  · rcases Option.or_eq_some_iff.mp h with h | ⟨-, h⟩
    · unfold Routing.dispatcherStep at h
      split at h
      all_goals (repeat' split at h)
      all_goals cases h
      all_goals first | exact absurd rfl (hread _) | exact ⟨by simp [drop_parsed], by simp⟩
    · unfold Routing.logicStep at h
      split at h
      all_goals (repeat' split at h)
      all_goals cases h
      all_goals first | exact absurd rfl hpush | exact ⟨by simp [drop_parsed], by simp⟩
  · unfold Routing.poolStep at h
    split at h
    all_goals (repeat' split at h)
    all_goals cases h
    all_goals exact ⟨by simp [drop_parsed], by simp⟩

theorem read_logs {reqs : List RTSPRequest} {fd sid : Nat} (hd : s.dispatcher = .reading fd sid)
    (h : Routing.step s (.read reqs) = some r) :
    r.parsed = Function.update s.parsed sid (s.parsed sid ++ reqs) ∧ r.pushed = s.pushed := by
  have hstep : Routing.step s (.read reqs) = some { s with
      parsed := Function.update s.parsed sid (s.parsed sid ++ reqs)
      dispatcher := .pushing fd sid reqs } := by
    simp [Routing.step, Routing.dispatcherStep, hd]
  obtain rfl := Option.some.inj (hstep.symm.trans h)
  exact ⟨rfl, rfl⟩

theorem pushCommand_logs {m : Routing.Msg RTSPRequest} {sid : Nat} (hl : s.logic = .holding sid m)
    (h : Routing.step s .pushCommand = some r) :
    r.parsed = s.parsed ∧ r.pushed = Function.update s.pushed sid (s.pushed sid ++ [m]) := by
  have hstep : Routing.step s .pushCommand = some { s with
      pushed := Function.update s.pushed sid (s.pushed sid ++ [m]), logic := .leaving sid } := by
    simp [Routing.step, Routing.dispatcherStep, Routing.logicStep, hl]
  obtain rfl := Option.some.inj (hstep.symm.trans h)
  exact ⟨rfl, rfl⟩

/-- The request that the Logic thread holds was read from the connection of its session. -/
theorem held_parsed {m : Routing.Msg RTSPRequest} {sid : Nat} (hI : Routing.Routed s)
    (hl : s.logic = .holding sid m) : m.req ∈ s.parsed sid := by
  have hheld : s.logic.held = [m] := by rw [hl]; rfl
  have hsrc := hI.held sid m hl
  have horder := hI.order sid
  rw [hheld, Routing.readFrom_append, @Routing.readFrom_all _ sid [m] (by simpa using hsrc)]
    at horder
  exact horder.subset (List.mem_append_right _ (List.mem_singleton.mpr rfl))

/-- What was pushed to a session was read from its connection. -/
theorem pushed_submits (hI : Routing.Routed s) (sid : Nat) :
    (s.pushed sid).map (·.req) <+: s.parsed sid := by
  have horder := hI.order sid
  rw [Routing.readFrom_append, Routing.readFrom_all (hI.source sid)] at horder
  exact (List.prefix_append _ _).trans horder

end

/-! ## The invariant -/

/-- What holds in every state: the requests are routed, and every connection has its own. -/
structure Conversing (s : ServerState M) : Prop where
  routed : Routing.Routed s.route
  linked : ∀ sid, Linked (s.route.parsed sid) ((s.route.pushed sid).map (·.req)) (s.conn sid)

theorem conversing_init (mediaRoot : Bytes) : Conversing (init mediaRoot : ServerState M) :=
  ⟨Routing.routed_init, fun _ => linked_new mediaRoot List.not_mem_nil⟩

/-- A thread moves and one session with it. -/
theorem Conversing.moves {s : ServerState M} (hI : Conversing s)
    {r : Routing.RouteState RTSPRequest} (hr : Routing.Routed r) {sid : Nat} {c : Connection M}
    (hparsed : ∀ i, i ≠ sid → r.parsed i = s.route.parsed i)
    (hpushed : ∀ i, i ≠ sid → r.pushed i = s.route.pushed i)
    (hc : Linked (r.parsed sid) ((r.pushed sid).map (·.req)) c) :
    Conversing ({ s with route := r }.setConn sid c) := by
  refine ⟨hr, fun i => ?_⟩
  by_cases hi : i = sid
  · subst hi
    show Linked (r.parsed i) ((r.pushed i).map (·.req)) (Function.update s.conn i c i)
    rw [Function.update_self]
    exact hc
  · show Linked (r.parsed i) ((r.pushed i).map (·.req)) (Function.update s.conn sid c i)
    rw [Function.update_of_ne hi, hparsed i hi, hpushed i hi]
    exact hI.linked i

/-- No request is put out or pushed. -/
theorem Conversing.same {s : ServerState M} (hI : Conversing s)
    {r : Routing.RouteState RTSPRequest} (hr : Routing.Routed r)
    (hlogs : r.parsed = s.route.parsed ∧ r.pushed = s.route.pushed) :
    Conversing { s with route := r } :=
  ⟨hr, fun sid => by
    show Linked (r.parsed sid) ((r.pushed sid).map (·.req)) (s.conn sid)
    rw [hlogs.1, hlogs.2]
    exact hI.linked sid⟩

/-- A step of one session. -/
theorem Conversing.serves {s : ServerState M} (hI : Conversing s) {sid : Nat} {c : Connection M}
    (hc : Linked (s.route.parsed sid) ((s.route.pushed sid).map (·.req)) c) :
    Conversing (s.setConn sid c) :=
  hI.moves hI.routed (fun _ _ => rfl) (fun _ _ => rfl) hc

/-- What the outside may do: `accept4` returns no number that a request in flight carries, the
    session id is a number, and what a call gets is `Allowed`. -/
def Allowed [IMediaSource M] (s : ServerState M) : Act M → Prop
  | .accept fd peer => Routing.FreshFd s.route (.accept fd) ∧ IsDecimal peer.sessionId
  | .call sid a => a.Allowed (s.conn sid).session
  | _ => True

theorem freshFd_of_ne {s : Routing.RouteState RTSPRequest} {a : Routing.Act RTSPRequest}
    (h : ∀ fd, a ≠ .accept fd) : Routing.FreshFd s a := fun fd hfd => absurd hfd (h fd)

theorem conversing_closeSession {s s' : ServerState M} {fd : Nat} (hI : Conversing s)
    (h : closeSession fd s = some s') : Conversing s' := by
  obtain ⟨r, hr, rfl⟩ := Option.map_eq_some_iff.mp h
  have hrouted : Routing.Routed r := Routing.routed_step hI.routed (freshFd_of_ne (by simp)) hr
  have hlogs := same_logs (by simp) (by simp) hr
  split
  · exact hI.same hrouted hlogs
  · next sid _ =>
      refine hI.moves hrouted (fun i _ => congrFun hlogs.1 i) (fun i _ => congrFun hlogs.2 i) ?_
      rw [hlogs.1, hlogs.2]
      exact linked_shut (hI.linked sid)

theorem conversing_onWorker {s s' : ServerState M} {sid : Nat}
    {f : Connection M → Option (Connection M)} (hI : Conversing s)
    (hf : ∀ c', f (s.conn sid) = some c' →
      Linked (s.route.parsed sid) ((s.route.pushed sid).map (·.req)) c')
    (h : onWorker s sid f = some s') : Conversing s' := by
  unfold onWorker at h
  split at h
  · obtain ⟨c', hc', rfl⟩ := Option.map_eq_some_iff.mp h
    exact hI.serves (hf c' hc')
  · cases h

theorem serving_cases {s : ServerState M} {fd sid : Nat} (h : serving s = some (fd, sid)) :
    s.route.dispatcher = .reading fd sid ∧ (s.conn sid).write.dispatcher = .idle := by
  unfold serving at h
  split at h
  · next hd =>
      split at h
      · next hidle =>
          cases h
          exact ⟨hd, hidle⟩
      · cases h
  · cases h

variable [IMediaSource M]

theorem conversing_step {s s' : ServerState M} {a : Act M} (hI : Conversing s)
    (hC : Allowed s a) (h : step s a = some s') : Conversing s' := by
  cases a with
  | accept fd peer =>
      obtain ⟨r, hr, rfl⟩ := Option.map_eq_some_iff.mp h
      have hrouted : Routing.Routed r := Routing.routed_step hI.routed hC.1 hr
      have hlogs := same_logs (by simp) (by simp) hr
      refine hI.moves hrouted (fun i _ => congrFun hlogs.1 i) (fun i _ => congrFun hlogs.2 i) ?_
      -- nothing was read from the new session and nothing pushed to it
      have hparsed : s.route.parsed s.route.next = [] := hI.routed.unborn _ le_rfl
      have hpushed : (s.route.pushed s.route.next).map (·.req) = [] := by
        rw [← List.prefix_nil, ← hparsed]
        exact pushed_submits hI.routed _
      rw [hlogs.1, hlogs.2, hparsed, hpushed]
      exact linked_new s.mediaRoot fun hmem => absurd (hC.2.2 13 hmem) (by decide)
  | thread a =>
      simp only [step] at h
      split at h
      · next ha =>
          obtain ⟨r, hr, rfl⟩ := Option.map_eq_some_iff.mp h
          have hread : ∀ reqs, a ≠ .read reqs := by
            rintro reqs rfl
            cases ha
          have hpush : a ≠ .pushCommand := by
            rintro rfl
            cases ha
          have hfresh : ∀ fd, a ≠ .accept fd := by
            rintro fd rfl
            cases ha
          exact hI.same (Routing.routed_step hI.routed (freshFd_of_ne hfresh) hr)
            (same_logs hread hpush hr)
      · cases h
  | drain a =>
      simp only [step] at h
      split at h
      · next fd sid _ =>
          obtain ⟨c', hc', rfl⟩ := Option.map_eq_some_iff.mp h
          exact hI.serves (linked_drain (hI.linked sid) hc')
      · cases h
  | readable rs =>
      simp only [step] at h
      split at h
      · cases h
      · next fd sid hserving =>
          obtain ⟨hd, -⟩ := serving_cases hserving
          split at h
          · exact conversing_closeSession hI h
          · cases h
          · next buf out hread =>
              obtain ⟨r, hr, rfl⟩ := Option.map_eq_some_iff.mp h
              have hrouted : Routing.Routed r :=
                Routing.routed_step hI.routed (freshFd_of_ne (by simp)) hr
              obtain ⟨hparsed, hpushed⟩ := read_logs hd hr
              refine hI.moves hrouted (fun i hi => ?_) (fun i _ => congrFun hpushed i) ?_
              · rw [hparsed, Function.update_of_ne hi]
              · rw [hparsed, hpushed, Function.update_self]
                exact linked_read (hI.linked sid) hread
  | noInput =>
      simp only [step] at h
      split at h
      · cases h
      · next fd sid hserving =>
          obtain ⟨hd, -⟩ := serving_cases hserving
          obtain ⟨r, hr, rfl⟩ := Option.map_eq_some_iff.mp h
          obtain ⟨hparsed, hpushed⟩ := read_logs hd hr
          refine hI.same (Routing.routed_step hI.routed (freshFd_of_ne (by simp)) hr) ⟨?_, hpushed⟩
          rw [hparsed, List.append_nil, Function.update_eq_self]
  | close fd =>
      simp only [step] at h
      split at h
      · exact conversing_closeSession hI h
      · cases h
  | pushCommand =>
      simp only [step] at h
      split at h
      · next sid m hl =>
          obtain ⟨r, hr, rfl⟩ := Option.map_eq_some_iff.mp h
          have hrouted : Routing.Routed r :=
            Routing.routed_step hI.routed (freshFd_of_ne (by simp)) hr
          obtain ⟨hparsed, hpushed⟩ := pushCommand_logs hl hr
          refine hI.moves hrouted (fun i _ => congrFun hparsed i) (fun i hi => ?_) ?_
          · rw [hpushed, Function.update_of_ne hi]
          · rw [hparsed, hpushed, Function.update_self, List.map_append]
            exact linked_pushCommand (hI.linked sid) (held_parsed hI.routed hl)
      · cases h
  | call sid a =>
      exact conversing_onWorker hI (fun c' hc' => linked_call (hI.linked sid) hC hc') h
  | startOp sid =>
      exact conversing_onWorker hI (fun c' hc' => linked_startOp (hI.linked sid) hc') h
  | continueOp sid a =>
      exact conversing_onWorker hI (fun c' hc' => linked_continueOp (hI.linked sid) hc') h

theorem conversing_of_run {mediaRoot : Bytes} {as : List (Act M)} {s : ServerState M}
    (hC : Lts.Along step Allowed (init mediaRoot) as) (h : Lts.run step (init mediaRoot) as = some s) :
    Conversing s :=
  Lts.run_invariant (fun _ _ _ hI hC h => conversing_step hI hC h) (conversing_init mediaRoot) hC h

/-- **A client reads the answers to its own requests**, in every run of the server whose calls are
    `Allowed`, whatever the order of the steps and whatever the other clients do. The bytes that
    `recv` has returned hold the requests `us`; the bytes that `send` has accepted hold the items
    that the session has pushed first; and the responses among them carry the numbers of the
    requests from the first one on, one for each, in their order. -/
theorem conversation_of_run (mediaRoot : Bytes) (as : List (Act M)) (s : ServerState M)
    (hC : Lts.Along step Allowed (init mediaRoot) as)
    (h : Lts.run step (init mediaRoot) as = some s) (sid : Nat) :
    ∃ us items left,
      Incremental.Drains Framer.nextUnit (s.conn sid).taken us (s.conn sid).recvBuf ∧
      Incremental.Drains clientUnit (s.conn sid).sent items left ∧
      items <+: (s.conn sid).log.filterMap Event.item ∧
      answersIn items <+: us.reduceOption.map cseqText := by
  have hI : Conversing s := conversing_of_run hC h
  have hlinked := hI.linked sid
  obtain ⟨us, hus, hparsed⟩ := hlinked.framed
  obtain ⟨items, left, hitems, hprefix⟩ := hlinked.reads
  refine ⟨us, items, left, hus, hitems, hprefix, ?_⟩
  have hanswers : answersIn items <+: responseCseqs (s.conn sid).log := by
    rw [← answersIn_items]
    exact hprefix.filterMap _
  rw [hparsed]
  exact hanswers.trans (hlinked.answers.trans ((pushed_submits hI.routed sid).map _))

instance (a : Call M) (t : Handled M) : Decidable (a.Allowed t) :=
  match a with
  | .handle env => inferInstanceAs (Decidable (13 ∉ env.timestamp))
  | .pace env now => inferInstanceAs (Decidable (AudioFitsTick t (.pace env now)))

instance (s : ServerState M) (a : Act M) : Decidable (Allowed s a) :=
  match a with
  | .accept fd peer =>
      inferInstanceAs (Decidable (Routing.FreshFd s.route (.accept fd) ∧ IsDecimal peer.sessionId))
  | .call sid a => inferInstanceAs (Decidable (a.Allowed (s.conn sid).session))
  | .thread _ | .drain _ | .readable _ | .noInput | .close _ | .pushCommand | .startOp _
  | .continueOp _ _ => isTrue trivial

/-- An OPTIONS request with this sequence number. -/
def optionsText (cseq : Nat) : Bytes :=
  ascii "OPTIONS rtsp://h/ RTSP/1.0\r\nCSeq: " ++ natDigits cseq ++ ascii "\r\n\r\n"

/-- A client connects. -/
def connects (fd : Nat) : List (Act (MediaSource PacketList Unit)) :=
  [.accept fd ⟨ascii "10.0.0.2", ascii "7", 1, 2⟩, .thread .emplace, .thread (.register true)]

/-- The bytes come in, and what they hold goes to the session. -/
def receives (fd : Nat) (bytes : Bytes) (n : Nat) : List (Act (MediaSource PacketList Unit)) :=
  [.thread (.find fd), .readable [.data bytes]] ++ List.replicate n (.thread .push) ++
    [.thread .leave] ++ (List.replicate n
      [.thread .pop, .thread .route, .pushCommand, .thread .logicLeave]).flatten

/-- The pacer submits a task, and it answers the next request. -/
def answers (sid : Nat) : List (Act (MediaSource PacketList Unit)) :=
  [.call sid (.handle oneFile), .startOp sid, .continueOp sid .push, .continueOp sid .cas]

/-- The Dispatcher sends what is queued, in two parts. -/
def sends (fd : Nat) (n : Nat) : List (Act (MediaSource PacketList Unit)) :=
  [.thread (.find fd), .drain .wake, .drain .pop, .drain .loadBytes, .drain .subBytes,
    .drain (.send (.bytes 20)), .drain .pop, .drain (.send (.bytes (n - 20))), .drain .pop]

/-- Two clients: the first sends two requests, in two parts, and the second one. -/
def twoClients : List (Act (MediaSource PacketList Unit)) :=
  connects 5 ++ connects 6 ++ receives 5 ((optionsText 1).take 9) 0 ++
    receives 5 ((optionsText 1).drop 9 ++ optionsText 2) 2 ++ receives 6 (optionsText 40) 1 ++
    [.thread (.acquire 0), .thread (.acquire 1)] ++ answers 0 ++ answers 1 ++
    [.continueOp 0 .arm, .continueOp 1 .arm] ++ sends 5 147

/-- The second response is under way when the client reads the first. -/
theorem conversation_of_run_twoClients : ∃ s, Lts.run step (init (ascii "/media")) twoClients = some s ∧
    (s.conn 0).sent.length = 147 ∧ ∃ us items left,
      Incremental.Drains Framer.nextUnit (s.conn 0).taken us (s.conn 0).recvBuf ∧
      Incremental.Drains clientUnit (s.conn 0).sent items left ∧
      items <+: (s.conn 0).log.filterMap Event.item ∧
      answersIn items <+: us.reduceOption.map cseqText := by
  have hC : Lts.Along step Allowed (init (ascii "/media")) twoClients := by decide +kernel
  have hrun : (Lts.run step (init (ascii "/media")) twoClients).map
      (fun s => decide ((s.conn 0).sent.length = 147)) = some true := by decide +kernel
  obtain ⟨s, hs, hsent⟩ := Option.map_eq_some_iff.mp hrun
  exact ⟨s, hs, of_decide_eq_true hsent, conversation_of_run _ _ s hC hs 0⟩

/-- Nothing of the session is under way: it is registered, no request of it waits, no exception
    has left it and all that it pushed is sent. -/
structure Settled (s : ServerState M) (sid : Nat) : Prop where
  registered : ∃ fd, s.route.sessions.lookup fd = some sid
  routed : Routing.readFrom sid (s.route.logic.held ++ Routing.inFlight s.route) = []
  handled : ∃ t, (s.conn sid).session = .ok t ∧ t.cmdQueue = []
  sent : (s.conn sid).unsent = []

/-- **No request is lost and no answer**: when nothing of a session is under way, its client has
    read all that the session has pushed, and there is a response to every request that stands in
    the bytes it has sent. -/
theorem conversation_complete (mediaRoot : Bytes) (as : List (Act M)) (s : ServerState M)
    (hC : Lts.Along step Allowed (init mediaRoot) as)
    (h : Lts.run step (init mediaRoot) as = some s) (sid : Nat) (hsettled : Settled s sid) :
    ∃ us items, Incremental.Drains Framer.nextUnit (s.conn sid).taken us (s.conn sid).recvBuf ∧
      Incremental.Drains clientUnit (s.conn sid).sent items [] ∧
      items = (s.conn sid).log.filterMap Event.item ∧
      answersIn items = us.reduceOption.map cseqText := by
  have hI : Conversing s := conversing_of_run hC h
  have hlinked := hI.linked sid
  obtain ⟨fd, hfd⟩ := hsettled.registered
  obtain ⟨t, hok, hqueue⟩ := hsettled.handled
  obtain ⟨us, hus, hparsed⟩ := hlinked.framed
  have hpushed : (s.route.pushed sid).map (·.req) = s.route.parsed sid := by
    have hflow := hI.routed.flow fd sid hfd
    rw [List.append_assoc, Routing.readFrom_append, hsettled.routed, List.append_nil,
      Routing.readFrom_all (hI.routed.source sid)] at hflow
    exact hflow
  have hhandled : requestsOf (s.conn sid).log = s.route.parsed sid := by
    have hcommands := hlinked.commands
    rw [hok, sessionOf, hqueue, List.append_nil] at hcommands
    exact hcommands.trans hpushed
  have hread := hlinked.decodable
  rw [hsettled.sent, List.append_nil] at hread
  refine ⟨us, _, hus, hread, rfl, ?_⟩
  rw [answersIn_items, hlinked.answered_ok hok, hhandled, hparsed]

/-- The outbox of the first client runs empty, then its second request is answered. -/
def settles : List (Act (MediaSource PacketList Unit)) :=
  twoClients ++ [.drain .disarm, .drain .clear, .drain .loadClose, .noInput, .thread .leave] ++
    answers 0 ++ [.continueOp 0 .arm] ++ sends 5 147

/-- What `Settled` says of the first client, to be evaluated. -/
def settledFirst (s : ServerState M) : Bool :=
  s.route.sessions.lookup 5 = some 0 &&
    (Routing.readFrom 0 (s.route.logic.held ++ Routing.inFlight s.route)).isEmpty &&
    (match (s.conn 0).session with
      | .ok t => t.cmdQueue.isEmpty
      | .error _ => false) &&
    (s.conn 0).unsent.isEmpty

theorem conversation_complete_settles : ∃ s, Lts.run step (init (ascii "/media")) settles = some s ∧
    ∃ us items, Incremental.Drains Framer.nextUnit (s.conn 0).taken us (s.conn 0).recvBuf ∧
      Incremental.Drains clientUnit (s.conn 0).sent items [] ∧
      items = (s.conn 0).log.filterMap Event.item ∧
      answersIn items = us.reduceOption.map cseqText := by
  have hC : Lts.Along step Allowed (init (ascii "/media")) settles := by decide +kernel
  have hrun : (Lts.run step (init (ascii "/media")) settles).map settledFirst = some true := by
    decide +kernel
  obtain ⟨s, hs, hend⟩ := Option.map_eq_some_iff.mp hrun
  unfold settledFirst at hend
  simp only [Bool.and_eq_true, List.isEmpty_iff, decide_eq_true_iff] at hend
  obtain ⟨⟨⟨hmap, hflight⟩, hqueue⟩, hunsent⟩ := hend
  refine ⟨s, hs, conversation_complete _ _ s hC hs 0 ⟨⟨5, hmap⟩, hflight, ?_, hunsent⟩⟩
  split at hqueue
  · next t ht => exact ⟨t, ht, List.isEmpty_iff.mp hqueue⟩
  · cases hqueue

end RtspServer.Reactor
