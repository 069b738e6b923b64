/-
  One connection with all that the threads do to it: the Dispatcher fills `recv_buf_` and drains
  `outbox_`, the Logic thread pushes to `cmd_queue_`, and the task of the pool handles the
  commands and paces. The parts are those of `Framer`, `Session` and `WriteWake`; here they are
  one state.

  A handler or a tick is computed at once and leaves a list of what it does to the outbox
  (`OutboxOp`), which the worker then does one atomic operation after the other. Nothing else
  reads the state of the session in between. What it loaded of `outbox_bytes_` was taken from
  outside (`Env.outboxLoad`), and the worker can go on only if it finds the same: a frame that
  was pushed must find the outbox below the watermark, one that was dropped above it.

  `Linked` is what holds between the two ends of a connection: the requests framed in the bytes
  that came in, those handled so far, the responses to them, and the bytes that went out.
-/
import RtspServer.Server.Delivery
import RtspServer.Server.OutboxBytes

namespace RtspServer

open ByteString Decimal StringUtils Lines Session

/-! ## State -/

/-- What the constructor of a session gets from `accept4` and draws. -/
structure Peer where
  clientIp : Bytes
  sessionId : Bytes
  ssrc : UInt32
  audioSsrc : UInt32

/-- What a task does to the outbox. -/
inductive OutboxOp where
  /-- `sendResponse` -/
  | respond (buf : Bytes) (teardown : Bool)
  /-- `pushTCPFrame` below the watermark -/
  | frame (buf : Bytes)
  /-- `pushTCPFrame` above it -/
  | overflow (rtp : Bytes)
  deriving DecidableEq

/-- What an event of a session does to the outbox. Over UDP a packet that goes nowhere was given
    to a sender that is not set up. -/
def Event.ops (useTcp teardown : Bool) : Event → List OutboxOp
  | .response resp => [.respond resp.toString teardown]
  | .interleaved _ frame => [.frame frame]
  | .dropped _ rtp => if useTcp then [.overflow rtp] else []
  | _ => []

/-- The bytes that are pushed. -/
def OutboxOp.bytes : OutboxOp → Bytes
  | .respond buf _ => buf
  | .frame buf => buf
  | .overflow _ => []

/-- Where the worker begins. -/
def OutboxOp.first : OutboxOp → WriteWake.Act
  | .respond buf teardown => .respond buf teardown
  | .frame buf => .checkFrame buf
  | .overflow rtp => .checkFrame rtp

/-- The comparison with the watermark comes out the way the session saw it. -/
def OutboxOp.agrees (w : WriteWake.WriteState) : OutboxOp → Bool
  | .respond _ _ => true
  | .frame _ => w.outboxBytes ≤ WriteWake.kOutboxHWM
  | .overflow _ => WriteWake.kOutboxHWM < w.outboxBytes

structure Connection (M : Type) where
  recvBuf : Bytes
  session : Handled M
  /-- what the task has left to do to the outbox -/
  todo : List OutboxOp
  write : WriteWake.WriteState
  /-- the bytes that `recv` has returned so far, in calls that returned true; no step reads them -/
  taken : Bytes
  /-- the bytes that `send` has accepted so far; no step reads them -/
  sent : Bytes

def Connection.new {M : Type} (mediaRoot : Bytes) (peer : Peer) : Connection M :=
  { recvBuf := []
    session := .ok (Session.new peer.clientIp mediaRoot peer.sessionId peer.ssrc peer.audioSsrc)
    todo := [], write := WriteWake.init, taken := [], sent := [] }

/-! ## Steps -/

/-- A part of a task: the next command, or the pacing. -/
inductive Call (M : Type) where
  | handle (env : Env M)
  | pace (env : Env M) (now : Int)

def Call.act {M : Type} : Call M → SessionAct M
  | .handle env => .handle env
  | .pace env now => .pace env now

variable {M : Type}

/-- The call is `handleTeardown`. -/
def Call.isTeardown (s : Session M) : Call M → Bool
  | .handle _ => s.cmdQueue.head?.any fun req => req.method = ascii "TEARDOWN"
  | .pace _ _ => false

namespace Connection

/-- `onReadable` has returned true. -/
def read (buf bytes : Bytes) (c : Connection M) : Connection M :=
  { c with recvBuf := buf, taken := c.taken ++ bytes }

/-- `pushCommand`. -/
def pushCommand (req : RTSPRequest) (c : Connection M) : Connection M :=
  { c with session :=
      match c.session with
      | .ok s => .ok { s with cmdQueue := s.cmdQueue ++ [req] }
      | .error s => .error { s with cmdQueue := s.cmdQueue ++ [req] } }

/-- The task goes on to its next call when it has done what the last one left. After an exception
    there is no task. -/
def call [IMediaSource M] (a : Call M) (c : Connection M) : Option (Connection M) :=
  match c.session, c.todo with
  | .ok s, [] =>
      if c.write.worker = .idle then
        match sessionStep (.ok s) a.act with
        | none => none
        | some t => some { c with
            session := t
            todo := ((sessionOf t).log.drop s.log.length).flatMap
              (Event.ops s.useTcp (a.isTeardown s)) }
      else none
  | _, _ => none

/-- The worker's first atomic operation for the next entry of `todo`. -/
def startOp (c : Connection M) : Option (Connection M) :=
  match c.todo with
  | [] => none
  | op :: rest =>
      if op.agrees c.write then
        (WriteWake.workerStep c.write op.first).map fun w => { c with todo := rest, write := w }
      else none

/-- The other atomic operations of the worker. -/
def continueOp (a : WriteWake.Act) (c : Connection M) : Option (Connection M) :=
  match a with
  | .addFrame | .push | .cas | .arm | .storeClose =>
      (WriteWake.workerStep c.write a).map fun w => { c with write := w }
  | _ => none

/-- A step of `onWritable`. -/
def drain (a : WriteWake.Act) (c : Connection M) : Option (Connection M) :=
  match a with
  | .wake | .pop | .loadBytes | .subBytes | .send _ | .disarm | .clear | .loadClose =>
      (WriteWake.dispatcherStep c.write a).map fun w =>
        { c with write := w, sent := c.sent ++ WriteWake.acceptedBy c.write a }
  | _ => none

/-- `closeSession` takes the socket out of the epoll set. -/
def shut (c : Connection M) : Connection M :=
  { c with write := { c.write with interest := none, dispatcher := .closed } }

end Connection

/-! ## What the two ends see -/

/-- The requests that were handled, in order. -/
def requestsOf (log : List Event) : List RTSPRequest :=
  log.filterMap fun e =>
    match e with
    | .request req => some req
    | _ => none

/-- The requests and their responses, as they stand in the log. -/
def exchanges (ps : List (RTSPRequest × RTSPResponse)) : List Event :=
  ps.flatMap fun p => [.request p.1, .response p.2]

/-- The sequence number of a response that a client reads, in the text of its `CSeq` header. -/
def cseqRead (text : Bytes) : Option Bytes := (RTSPResponse.read text).bind (·.1.cseqOf)

/-- The sequence numbers of the responses among the items, in order. -/
def answersIn (items : List Item) : List (Option Bytes) :=
  items.filterMap fun item =>
    match item with
    | .response text => some (cseqRead text)
    | .packet _ _ => none

/-- The sequence number that the response to a request carries. -/
def cseqText (req : RTSPRequest) : Option Bytes := some (toDec req.cseq)

/-! ### Logs -/

/-- What a client reads of the responses of a log. -/
def responseCseqs (log : List Event) : List (Option Bytes) :=
  log.filterMap fun e =>
    match e with
    | .response resp => some (cseqRead resp.toString)
    | _ => none

theorem filterMap_dialogue {α : Type} {f : Event → Option α}
    (h : ∀ e, e.isExchange = false → f e = none) (log : List Event) : (dialogue log).filterMap f = log.filterMap f := by
  unfold dialogue
  rw [List.filterMap_filter]
  apply List.filterMap_congr
  intro e _
  cases he : e.isExchange with
  | true => rfl
  | false => rw [h e he]; rfl

theorem requestsOf_dialogue (log : List Event) : requestsOf (dialogue log) = requestsOf log := by
  apply filterMap_dialogue
  intro e he
  cases e <;> first | rfl | cases he

theorem responseCseqs_dialogue (log : List Event) :
    responseCseqs (dialogue log) = responseCseqs log := by
  apply filterMap_dialogue
  intro e he
  cases e <;> first | rfl | cases he

theorem requestsOf_append (l m : List Event) :
    requestsOf (l ++ m) = requestsOf l ++ requestsOf m := List.filterMap_append

theorem responseCseqs_append (l m : List Event) :
    responseCseqs (l ++ m) = responseCseqs l ++ responseCseqs m := List.filterMap_append

theorem requestsOf_exchanges (ps : List (RTSPRequest × RTSPResponse)) :
    requestsOf (exchanges ps) = ps.map (·.1) := by
  induction ps with
  | nil => rfl
  | cons p ps ih =>
      show requestsOf ([.request p.1, .response p.2] ++ exchanges ps) = _
      rw [requestsOf_append, ih]
      rfl

theorem responseCseqs_exchanges (ps : List (RTSPRequest × RTSPResponse)) :
    responseCseqs (exchanges ps) = ps.map fun p => cseqRead p.2.toString := by
  induction ps with
  | nil => rfl
  | cons p ps ih =>
      show responseCseqs ([.request p.1, .response p.2] ++ exchanges ps) = _
      rw [responseCseqs_append, ih]
      rfl

theorem answersIn_items (log : List Event) :
    answersIn (log.filterMap Event.item) = responseCseqs log := by
  unfold answersIn responseCseqs
  rw [List.filterMap_filterMap]
  apply List.filterMap_congr
  intro e _
  cases e <;> rfl

/-- A client reads the sequence number that the handler has set. -/
theorem RTSPResponse.Built.cseqRead_eq {date : Bytes} {r : RTSPResponse}
    (h : RTSPResponse.Built date r) (hdate : 13 ∉ date) : cseqRead r.toString = r.cseqOf := by
  have hread := h.read_toString hdate []
  have hne : (ascii "CSeq" == ascii "Server") = false := by decide
  rw [List.append_nil] at hread
  rw [cseqRead, hread, Option.bind_some, RTSPResponse.cseqOf, RTSPResponse.serverHeader,
    List.lookup_cons, hne]
  rfl

/-! ## The invariant of a connection -/

/-- The buffer that the worker has begun to push. -/
def WriteWake.WorkerPc.begun : WriteWake.WorkerPc → Bytes
  | .checked frame => frame
  | .added buf _ => buf
  | _ => []

namespace Connection

/-- The log of the session. -/
def log (c : Connection M) : List Event := (sessionOf c.session).log

/-- The bytes that the session has pushed and `send` has not accepted. -/
def unsent (c : Connection M) : Bytes :=
  WriteWake.waiting c.write ++ c.write.worker.begun ++ c.todo.flatMap OutboxOp.bytes

end Connection

/-- Each request that was handled has its response, except for one that an exception left. -/
def AnsweredSoFar : Handled M → Prop
  | .ok s => ∃ ps, dialogue s.log = exchanges ps ∧ ∀ p ∈ ps, p.2.cseqOf = cseqText p.1
  | .error s => ∃ ps req, dialogue s.log = exchanges ps ++ [.request req] ∧
      ∀ p ∈ ps, p.2.cseqOf = cseqText p.1

/-- What holds of a connection: `parsed` are the requests its `onReadable` has put out, `pushed`
    those that reached its session. -/
structure Linked (parsed pushed : List RTSPRequest) (c : Connection M) : Prop where
  framed : ∃ us, Incremental.Drains Framer.nextUnit c.taken us c.recvBuf ∧ us.reduceOption = parsed
  commands : requestsOf c.log ++ (sessionOf c.session).cmdQueue = pushed
  answered : AnsweredSoFar c.session
  tidy : Tidy True (sessionOf c.session)
  built : ∀ resp, .response resp ∈ c.log → ∃ date, 13 ∉ date ∧ RTSPResponse.Built date resp
  bytes : (c.log.filterMap Event.buffer).flatten = c.sent ++ c.unsent
  offset : WriteWake.Offset c.write

theorem linked_new (mediaRoot : Bytes) {peer : Peer} (hid : 13 ∉ peer.sessionId) :
    Linked [] [] (Connection.new mediaRoot peer : Connection M) := by
  refine ⟨⟨[], .stop rfl, rfl⟩, rfl, ⟨[], rfl, nofun⟩, ?_, nofun, rfl,
    ⟨fun _ => rfl, nofun, nofun⟩⟩
  exact ⟨hid, List.forall_mem_nil _, List.forall_mem_nil _⟩

section

variable {parsed pushed : List RTSPRequest} {c c' : Connection M}

/-! ### Receiving -/

/-- `onReadable` decodes on where it stopped. -/
theorem linked_read (h : Linked parsed pushed c) {rs : List Framer.Recv} {buf : Bytes}
    {out : List RTSPRequest} (hread : Framer.onReadable rs c.recvBuf = .returnsTrue buf out) :
    Linked (parsed ++ out) pushed (c.read buf (Framer.received rs)) := by
  obtain ⟨us, hus, rfl⟩ := h.framed
  obtain ⟨vs, hvs, rfl⟩ := Framer.drains_of_onReadable hread
  have hframed := Incremental.drains_append Framer.nextUnit_stable hus hvs
  exact ⟨⟨us ++ vs, hframed, List.reduceOption_append us vs⟩, h.commands, h.answered, h.tidy,
    h.built, h.bytes, h.offset⟩

/-- A request that was read from the connection is pushed. -/
theorem linked_pushCommand (h : Linked parsed pushed c) {req : RTSPRequest} (hreq : req ∈ parsed) :
    Linked parsed (pushed ++ [req]) (c.pushCommand req) := by
  obtain ⟨us, hus, hparsed⟩ := h.framed
  obtain ⟨raw, hraw⟩ := Framer.parsed_of_drains hus req (by rw [hparsed]; exact hreq)
  have hurl : ∀ req' ∈ (sessionOf c.session).cmdQueue ++ [req], Free crlf req'.url := by
    intro req' hreq'
    rcases List.mem_append.mp hreq' with hreq' | hreq'
    · exact h.tidy.commands req' hreq'
    · rw [List.mem_singleton.mp hreq']
      exact free_url hraw
  have hqueue : requestsOf c.log ++ ((sessionOf c.session).cmdQueue ++ [req]) = pushed ++ [req] := by
    rw [← List.append_assoc, h.commands]
  obtain ⟨recvBuf, session, todo, write, taken, sent⟩ := c
  cases session with
  | ok s => exact ⟨⟨us, hus, hparsed⟩, hqueue, h.answered, ⟨h.tidy.sessionId, hurl, h.tidy.log⟩,
      h.built, h.bytes, h.offset⟩
  | error s => exact ⟨⟨us, hus, hparsed⟩, hqueue, h.answered, ⟨h.tidy.sessionId, hurl, h.tidy.log⟩,
      h.built, h.bytes, h.offset⟩

/-! ### Sending -/

/-- A step of the write side, of the worker's entries and of what was accepted: the bytes stay
    accounted for. -/
theorem Linked.writes (h : Linked parsed pushed c) (todo : List OutboxOp) (more : Bytes)
    {write : WriteWake.WriteState} (hoffset : WriteWake.Offset write)
    (hbytes : more ++ (WriteWake.waiting write ++ write.worker.begun ++
      todo.flatMap OutboxOp.bytes) = c.unsent) :
    Linked parsed pushed { c with todo := todo, write := write, sent := c.sent ++ more } :=
  ⟨h.framed, h.commands, h.answered, h.tidy, h.built,
    h.bytes.trans (by rw [← hbytes, ← List.append_assoc]; rfl), hoffset⟩

/-- The worker moves what it has begun to the end of the queue, or leaves the bytes alone. -/
theorem waiting_workerStep {s s' : WriteWake.WriteState} {a : WriteWake.Act}
    (hI : WriteWake.Offset s) (h : WriteWake.workerStep s a = some s')
    (ha : a = .addFrame ∨ a = .push ∨ a = .cas ∨ a = .arm ∨ a = .storeClose) :
    WriteWake.Offset s' ∧ WriteWake.waiting s' ++ s'.worker.begun =
      WriteWake.waiting s ++ s.worker.begun := by
  have hafter : ∀ td, (WriteWake.afterEnable td).begun = [] := by decide
  cases WriteWake.moves_of_workerStep h
  case push buf td hw =>
    refine ⟨⟨hI.empty, hI.popped, hI.loaded⟩, ?_⟩
    simp [WriteWake.waiting, WriteWake.unsent, hw, WriteWake.WorkerPc.begun]
  case addFrame frame hw =>
    refine ⟨⟨hI.empty, hI.popped, hI.loaded⟩, ?_⟩
    rw [hw]
    rfl
  case casFails td hw _ =>
    refine ⟨⟨hI.empty, hI.popped, hI.loaded⟩, ?_⟩
    rw [hw]
    exact congrArg (WriteWake.waiting s ++ ·) (hafter td)
  case cas td hw _ =>
    refine ⟨⟨hI.empty, hI.popped, hI.loaded⟩, ?_⟩
    rw [hw]
    rfl
  case arm td hw =>
    refine ⟨⟨hI.empty, hI.popped, hI.loaded⟩, ?_⟩
    rw [hw]
    exact congrArg (WriteWake.waiting s ++ ·) (hafter td)
  case storeClose hw =>
    refine ⟨⟨hI.empty, hI.popped, hI.loaded⟩, ?_⟩
    rw [hw]
    rfl
  all_goals simp at ha

/-- The worker begins with the bytes of the next entry. -/
theorem waiting_begins {s s' : WriteWake.WriteState} {op : OutboxOp} (hI : WriteWake.Offset s)
    (hop : op.agrees s = true) (h : WriteWake.workerStep s op.first = some s') :
    WriteWake.Offset s' ∧ WriteWake.waiting s' ++ s'.worker.begun =
      WriteWake.waiting s ++ s.worker.begun ++ op.bytes := by
  have hidle : ∀ {w : WriteWake.WorkerPc}, w = .idle → w.begun = [] := by rintro _ rfl; rfl
  have hmoves := WriteWake.moves_of_workerStep h
  cases op with
  | respond buf td =>
      cases hmoves
      case respond hw =>
        refine ⟨⟨hI.empty, hI.popped, hI.loaded⟩, ?_⟩
        rw [hidle hw, List.append_nil]
        rfl
  | frame buf =>
      have hle : s.outboxBytes ≤ WriteWake.kOutboxHWM := of_decide_eq_true hop
      cases hmoves
      case overflow hlt => omega
      case checkFrame hw _ =>
        refine ⟨⟨hI.empty, hI.popped, hI.loaded⟩, ?_⟩
        rw [hidle hw, List.append_nil]
        rfl
  | overflow rtp =>
      have hlt : WriteWake.kOutboxHWM < s.outboxBytes := of_decide_eq_true hop
      cases hmoves
      case checkFrame hle => omega
      case overflow hw _ =>
        refine ⟨⟨hI.empty, hI.popped, hI.loaded⟩, ?_⟩
        rw [hidle hw, List.append_nil]
        rfl

theorem linked_startOp (h : Linked parsed pushed c) (hs : c.startOp = some c') :
    Linked parsed pushed c' := by
  unfold Connection.startOp at hs
  split at hs
  · cases hs
  · next op rest htodo =>
      split at hs
      · next hop =>
          obtain ⟨w, hw, rfl⟩ := Option.map_eq_some_iff.mp hs
          obtain ⟨hoffset, hbegun⟩ := waiting_begins h.offset hop hw
          have hwrites := h.writes rest [] hoffset (by
            rw [hbegun, Connection.unsent, htodo, List.flatMap_cons, List.nil_append,
              List.append_assoc])
          rwa [List.append_nil] at hwrites
      · cases hs

theorem linked_continueOp {a : WriteWake.Act} (h : Linked parsed pushed c)
    (hs : c.continueOp a = some c') : Linked parsed pushed c' := by
  unfold Connection.continueOp at hs
  split at hs
  all_goals try cases hs
  all_goals
    obtain ⟨w, hw, rfl⟩ := Option.map_eq_some_iff.mp hs
    obtain ⟨hoffset, hbegun⟩ := waiting_workerStep h.offset hw (by simp)
    have hwrites := h.writes c.todo [] hoffset (by
      rw [hbegun, List.nil_append]
      rfl)
    rwa [List.append_nil] at hwrites

/-- The Dispatcher's steps are steps of `callStep` and leave the worker alone. -/
theorem waiting_dispatcherStep {s s' : WriteWake.WriteState} {a : WriteWake.Act}
    (hI : WriteWake.Offset s) (h : WriteWake.dispatcherStep s a = some s') :
    WriteWake.Offset s' ∧ s'.worker = s.worker ∧
      WriteWake.waiting s = WriteWake.acceptedBy s a ++ WriteWake.waiting s' := by
  have hmoves := WriteWake.moves_of_dispatcherStep h
  have hcall : WriteWake.callStep s a = some s' := by
    unfold WriteWake.callStep
    split
    · cases hmoves
      case wake hd _ => exact if_pos (.inl hd)
    · unfold WriteWake.step
      have hnone : WriteWake.workerStep s a = none := by
        cases hmoves <;> first | rfl | cases h
      rw [hnone]
      exact h
  have hpushed : WriteWake.pushedBy s a = [] := by
    cases hmoves <;> first | rfl | cases h
  obtain ⟨hoffset, hwaiting⟩ := WriteWake.waiting_step hI hcall
  rw [hpushed, List.flatten_nil, List.append_nil] at hwaiting
  refine ⟨hoffset, ?_, hwaiting⟩
  cases hmoves <;> first | rfl | cases h

theorem linked_drain {a : WriteWake.Act} (h : Linked parsed pushed c)
    (hs : c.drain a = some c') : Linked parsed pushed c' := by
  unfold Connection.drain at hs
  split at hs
  all_goals try cases hs
  all_goals
    obtain ⟨w, hw, rfl⟩ := Option.map_eq_some_iff.mp hs
    obtain ⟨hoffset, hworker, hwaiting⟩ := waiting_dispatcherStep h.offset hw
    refine h.writes c.todo _ hoffset ?_
    rw [hworker, ← List.append_assoc, ← List.append_assoc, ← hwaiting]
    rfl

theorem linked_shut (h : Linked parsed pushed c) : Linked parsed pushed c.shut :=
  ⟨h.framed, h.commands, h.answered, h.tidy, h.built, h.bytes, ⟨h.offset.empty, nofun, nofun⟩⟩

/-! ### Calls -/

/-- A log that has no further exchange. -/
theorem AnsweredSoFar.of_dialogue {s s' : Session M} (h : AnsweredSoFar (.ok s))
    (hlog : dialogue s'.log = dialogue s.log) : AnsweredSoFar (.ok s') := by
  obtain ⟨ps, hps, hall⟩ := h
  exact ⟨ps, hlog.trans hps, hall⟩

theorem mem_dialogue {log : List Event} {resp : RTSPResponse} :
    .response resp ∈ dialogue log ↔ .response resp ∈ log := by
  unfold dialogue
  rw [List.mem_filter]
  exact and_iff_left rfl

theorem requestsOf_of_dialogue {l m : List Event} (h : dialogue l = dialogue m) :
    requestsOf l = requestsOf m := by
  rw [← requestsOf_dialogue l, h, requestsOf_dialogue]

variable [IMediaSource M]

/-- The request of a call is handled: it leaves the queue, and it is answered or throws. -/
theorem handled_answered (env : Env M) (req : RTSPRequest) (rest : List RTSPRequest)
    {s : Session M} (h : AnsweredSoFar (.ok s)) :
    AnsweredSoFar (s.handleNext env req rest) ∧
      requestsOf (sessionOf (s.handleNext env req rest)).log = requestsOf s.log ++ [req] := by
  obtain ⟨ps, hps, hall⟩ := h
  obtain ⟨hthrows, hanswers⟩ :=
    handleRequest_spec env req ({ s with cmdQueue := rest }.emit (.request req))
  by_cases hthrow : SetupThrows req ({ s with cmdQueue := rest }.emit (.request req))
  · obtain ⟨s', hres, hlog, -⟩ := hthrows hthrow
    have hlog : s'.log = s.log ++ [.request req] := hlog
    rw [handleNext, hres]
    refine ⟨⟨ps, req, ?_, hall⟩, ?_⟩
    · rw [hlog, dialogue, List.filter_append, ← dialogue, hps]
      rfl
    · rw [sessionOf, hlog, requestsOf_append]
      rfl
  · obtain ⟨s', hres, r, hlog, hr⟩ := hanswers hthrow
    rw [dialogue_emit] at hlog
    have hlog : dialogue s'.log = dialogue s.log ++ [.request req] ++ [.response r] := hlog
    rw [handleNext, hres]
    refine ⟨⟨ps ++ [(req, r)], ?_, ?_⟩, ?_⟩
    · rw [hlog, hps, exchanges, exchanges, List.flatMap_append, List.append_assoc]
      rfl
    · exact List.forall_mem_append.mpr ⟨hall, by simpa [cseqText] using hr⟩
    · rw [sessionOf, ← requestsOf_dialogue, hlog, requestsOf_append, requestsOf_append,
        requestsOf_dialogue]
      simp [requestsOf]

/-- What a call may get from outside: a date of one line, and no audio packet that is too long for
    its frame. -/
def Call.Allowed (t : Handled M) : Call M → Prop
  | .handle env => 13 ∉ env.timestamp
  | .pace env now => AudioFitsTick t (.pace env now)

/-- What a call does to the exchanges: nothing is answered but the request that it takes from the
    queue. -/
theorem call_exchanges {a : Call M} {s : Session M} {t : Handled M}
    (hanswered : AnsweredSoFar (.ok s)) (htidy : Tidy True s) (ha : a.Allowed (.ok s))
    (ht : sessionStep (.ok s) a.act = some t) :
    AnsweredSoFar t ∧
      requestsOf (sessionOf t).log ++ (sessionOf t).cmdQueue = requestsOf s.log ++ s.cmdQueue ∧
      ∀ resp, .response resp ∈ (sessionOf t).log → .response resp ∈ s.log ∨
        ∃ date, 13 ∉ date ∧ RTSPResponse.Built date resp := by
  cases a with
  | handle env =>
      obtain ⟨req, rest, hq, rfl⟩ := handle_cases ht
      obtain ⟨hans, hreqs⟩ := handled_answered env req rest hanswered
      have hurl : Free crlf req.url := htidy.commands req (by rw [hq]; exact List.mem_cons_self)
      have hqueue : (sessionOf (s.handleNext env req rest)).cmdQueue = rest :=
        (quiet_handleRequest env req _).cmdQueue
      have hreplies : Replies env ({ s with cmdQueue := rest }.emit (.request req))
          (sessionOf (s.handleNext env req rest)) := replies_handleRequest hurl htidy.sessionId
      obtain ⟨l, hlog, hl⟩ := hreplies.log
      refine ⟨hans, by rw [hreqs, hqueue, hq, List.append_assoc]; rfl, fun resp hresp => ?_⟩
      rw [hlog] at hresp
      rcases List.mem_append.mp hresp with hold | hnew
      · rcases List.mem_append.mp hold with hold | hold
        · exact .inl hold
        · simp at hold
      · rcases hl _ hnew with heq | ⟨resp', heq, hbuilt⟩
        · cases heq
        · cases heq
          exact .inr ⟨env.timestamp, ha, hbuilt⟩
  | pace env now =>
      obtain rfl := Option.some.inj ht
      have hdialogue := (paces_pace env now s).dialogue
      have hqueue := (ticks_pace env now s).cmdQueue
      refine ⟨hanswered.of_dialogue hdialogue, ?_, fun resp hresp => .inl ?_⟩
      · rw [sessionOf, hqueue, requestsOf_of_dialogue hdialogue]
      · exact mem_dialogue.mp (hdialogue ▸ mem_dialogue.mpr hresp)

omit [IMediaSource M] in
/-- The entries hold the bytes of the buffers. -/
theorem ops_bytes (useTcp teardown : Bool) (l : List Event) :
    (l.flatMap (Event.ops useTcp teardown)).flatMap OutboxOp.bytes =
      (l.filterMap Event.buffer).flatten := by
  induction l with
  | nil => rfl
  | cons e l ih =>
      rw [List.flatMap_cons, List.flatMap_append, ih, ← List.singleton_append,
        List.filterMap_append, List.flatten_append]
      congr 1
      cases e with
      | dropped track rtp => cases useTcp <;> rfl
      | _ => simp [Event.ops, Event.buffer, OutboxOp.bytes]

theorem linked_call {a : Call M} (h : Linked parsed pushed c) (ha : a.Allowed c.session)
    (hs : c.call a = some c') : Linked parsed pushed c' := by
  obtain ⟨recvBuf, session, todo, write, taken, sent⟩ := c
  unfold Connection.call at hs
  split at hs
  · next s hsession htodo =>
      obtain rfl : session = .ok s := hsession
      obtain rfl : todo = [] := htodo
      split at hs
      · split at hs
        · cases hs
        · next t ht =>
            cases hs
            obtain ⟨l, hl⟩ := log_step ht
            have hl : (sessionOf t).log = s.log ++ l := hl
            have htidy : Tidy True (sessionOf t) := by
              cases a with
              | handle env =>
                  exact tidy_step (t := .ok s) (a := .handle env) h.tidy ⟨ha, fun _ => trivial⟩ ht
              | pace env now =>
                  exact tidy_step (t := .ok s) (a := .pace env now) h.tidy ⟨trivial, fun _ => ha⟩ ht
            obtain ⟨hanswered, hcommands, hbuilt⟩ := call_exchanges h.answered h.tidy ha ht
            refine ⟨h.framed, hcommands.trans h.commands, hanswered, htidy,
              fun resp hresp => ?_, ?_, h.offset⟩
            · rcases hbuilt resp hresp with hold | hnew
              · exact h.built resp hold
              · exact hnew
            · have hbytes : (s.log.filterMap Event.buffer).flatten =
                  sent ++ (WriteWake.waiting write ++ write.worker.begun ++ []) := h.bytes
              show ((sessionOf t).log.filterMap Event.buffer).flatten =
                sent ++ (WriteWake.waiting write ++ write.worker.begun ++
                  List.flatMap OutboxOp.bytes _)
              rw [hl, List.drop_left, ops_bytes, List.filterMap_append, List.flatten_append, hbytes,
                List.append_nil, List.append_assoc sent]
      · cases hs
  · cases hs

omit [IMediaSource M]

/-! ### What the client has -/

theorem Linked.decodable (h : Linked parsed pushed c) :
    Incremental.Drains clientUnit (c.sent ++ c.unsent) (c.log.filterMap Event.item) [] := by
  rw [← h.bytes]
  exact (decodable_iff fun e he => (h.tidy.log e he).1).mpr fun e he => (h.tidy.log e he).2 trivial

/-- The client has read a part of what the session has pushed. -/
theorem Linked.reads (h : Linked parsed pushed c) :
    ∃ items left, Incremental.Drains clientUnit c.sent items left ∧
      items <+: c.log.filterMap Event.item :=
  reads_prefix h.decodable

/-- The client reads the sequence numbers of the exchanges. `tail` is a request that threw. -/
theorem Linked.read_exchanges (h : Linked parsed pushed c)
    {ps : List (RTSPRequest × RTSPResponse)} {tail : List Event}
    (hdialogue : dialogue c.log = exchanges ps ++ tail)
    (hall : ∀ p ∈ ps, p.2.cseqOf = cseqText p.1) (htail : responseCseqs tail = []) :
    responseCseqs c.log = ps.map fun p => cseqText p.1 := by
  have hread : ∀ p ∈ ps, cseqRead p.2.toString = cseqText p.1 := by
    intro p hp
    have hmem : .response p.2 ∈ c.log := by
      rw [← mem_dialogue, hdialogue]
      exact List.mem_append_left _ (List.mem_flatMap.mpr ⟨p, hp, by simp⟩)
    obtain ⟨date, hdate, hbuilt⟩ := h.built p.2 hmem
    rw [hbuilt.cseqRead_eq hdate, hall p hp]
  calc responseCseqs c.log
      = responseCseqs (exchanges ps) := by
        rw [← responseCseqs_dialogue, hdialogue, responseCseqs_append, htail, List.append_nil]
    _ = ps.map fun p => cseqText p.1 := by
        rw [responseCseqs_exchanges]
        exact List.map_congr_left hread

/-- The responses of a session that has not thrown are those to the requests it has handled. -/
theorem Linked.answered_ok (h : Linked parsed pushed c) {s : Session M} (hok : c.session = .ok s) :
    responseCseqs c.log = (requestsOf c.log).map cseqText := by
  have hlog : c.log = s.log := by rw [Connection.log, hok]; rfl
  have hanswered := h.answered
  rw [hok] at hanswered
  obtain ⟨ps, hps, hall⟩ := hanswered
  rw [h.read_exchanges (by rw [hlog, hps, List.append_nil]) hall rfl, hlog,
    ← requestsOf_dialogue, hps, requestsOf_exchanges, List.map_map]
  rfl

/-- The responses are those to the first requests that reached the session. -/
theorem Linked.answers (h : Linked parsed pushed c) :
    responseCseqs c.log <+: pushed.map cseqText := by
  have hhandled : (requestsOf c.log).map cseqText <+: pushed.map cseqText := by
    rw [← h.commands, List.map_append]
    exact List.prefix_append _ _
  cases hsession : c.session with
  | ok s =>
      rw [h.answered_ok hsession]
      exact hhandled
  | error s =>
      -- the request that threw is handled and has no response
      have hlog : c.log = s.log := by rw [Connection.log, hsession]; rfl
      have hanswered := h.answered
      rw [hsession] at hanswered
      obtain ⟨ps, req, hps, hall⟩ := hanswered
      have hreqs : requestsOf c.log = ps.map (·.1) ++ [req] := by
        rw [hlog, ← requestsOf_dialogue, hps, requestsOf_append, requestsOf_exchanges]
        rfl
      rw [h.read_exchanges (by rw [hlog, hps]) hall rfl]
      refine List.IsPrefix.trans ?_ hhandled
      rw [hreqs, List.map_append, List.map_map]
      exact List.prefix_append _ _

end

end RtspServer
