/-
  What a session sends after it is marked for closing. `close_after_write_` is set by
  `handleTeardown` and by `pushTCPFrame` above the watermark, and only `onWritable` reads it: the
  commands behind a TEARDOWN are handled in the next tick and answered, and a session that was
  too slow goes on playing and pushes again as soon as its outbox is below the watermark.

  `silent_after_close`: nothing is sent in a run in which every producer is stopped from outside
  once the flag is set: no request is taken, and no tick streams unless the outbox stays above
  the watermark.
-/
import RtspServer.Server.PacerEmits
import RtspServer.Server.SessionMoves

namespace RtspServer

open ByteString Session IMediaSource

variable {M : Type}

/-! ## Outputs and the watermark -/

/-- A buffer is pushed to `outbox_` or a datagram is sent. -/
def Event.isOutput : Event → Bool
  | .response _ | .interleaved _ _ | .datagram _ _ _ => true
  | _ => false

/-- A packet was built and went nowhere: over TCP this is where `pushTCPFrame` sets the flag. -/
def Event.isDropped : Event → Bool
  | .dropped _ _ => true
  | _ => false

/-- What a session has pushed and sent, in order. -/
def outputs (log : List Event) : List Event := log.filter Event.isOutput

/-- Nothing is pushed or sent behind a packet that was dropped. -/
def StopsAtDrop (l : List Event) : Prop :=
  l.Pairwise fun e e' => e.isDropped = true → e'.isOutput = false

/-- Every load of `outbox_bytes_` from the `k`-th on is above the watermark. -/
def Blocked (env : Env M) (k : Nat) : Prop :=
  ∀ j, k ≤ j → WriteWake.kOutboxHWM < env.outboxLoad j

/-- Once a load from the `k`-th on is above the watermark, the later ones are. -/
def StaysAbove (env : Env M) (k : Nat) : Prop :=
  ∀ i, k ≤ i → WriteWake.kOutboxHWM < env.outboxLoad i → Blocked env i

/-- A session over TCP whose outbox stays above the watermark once it is, and is above when the
    session is marked for closing. -/
structure Guarded (env : Env M) (s : Session M) : Prop where
  useTcp : s.useTcp = true
  stays : StaysAbove env s.loads
  blocked : s.closeAfterWrite = true → Blocked env s.loads

/-- From `s` to `s'` these events happen; a guarded session stays guarded, sends nothing behind
    a dropped packet, and nothing at all when it was marked for closing. -/
structure Hushes (env : Env M) (s : Session M) (l : List Event) (s' : Session M) : Prop where
  log : s'.log = s.log ++ l
  close : s.closeAfterWrite = true → s'.closeAfterWrite = true
  guarded : Guarded env s → Guarded env s'
  stops : Guarded env s → StopsAtDrop l
  dropped : Guarded env s → ∀ e ∈ l, e.isDropped = true → s'.closeAfterWrite = true
  silent : Guarded env s → s.closeAfterWrite = true → ∀ e ∈ l, e.isOutput = false

theorem Hushes.trans {env : Env M} {s t u : Session M} {l l' : List Event}
    (h : Hushes env s l t) (h' : Hushes env t l' u) : Hushes env s (l ++ l') u := by
  refine ⟨by rw [h'.log, h.log, List.append_assoc], fun hc => h'.close (h.close hc),
    fun hg => h'.guarded (h.guarded hg), fun hg => ?_, fun hg e he hd => ?_, fun hg hc e he => ?_⟩
  · refine List.pairwise_append.mpr ⟨h.stops hg, h'.stops (h.guarded hg), fun e he e' he' hd => ?_⟩
    exact h'.silent (h.guarded hg) (h.dropped hg e he hd) e' he'
  · rcases List.mem_append.mp he with he | he
    · exact h'.close (h.dropped hg e he hd)
    · exact h'.dropped (h.guarded hg) e he hd
  · rcases List.mem_append.mp he with he | he
    · exact h.silent hg hc e he
    · exact h'.silent (h.guarded hg) (h.close hc) e he

/-- A step that sends no packet. -/
theorem Hushes.of_quiet {env : Env M} {s s' : Session M} (l : List Event)
    (hlog : s'.log = s.log ++ l) (htcp : s'.useTcp = s.useTcp) (hloads : s'.loads = s.loads)
    (hclose : s'.closeAfterWrite = s.closeAfterWrite)
    (hl : ∀ e ∈ l, e.isOutput = false ∧ e.isDropped = false) : Hushes env s l s' := by
  refine ⟨hlog, fun hc => hclose.trans hc, fun hg => ?_, fun _ => ?_, fun _ e he hd => ?_,
    fun _ _ e he => (hl e he).1⟩
  · exact ⟨htcp.trans hg.useTcp, hloads ▸ hg.stays, fun hc => hloads ▸ hg.blocked (hclose ▸ hc)⟩
  · exact List.pairwise_of_forall_mem_list fun e _ e' he' _ => (hl e' he').1
  · rw [(hl e he).2] at hd
    cases hd

theorem Hushes.refl (env : Env M) (s : Session M) : Hushes env s [] s :=
  .of_quiet [] (List.append_nil _).symm rfl rfl rfl fun _ he => nomatch he

/-! ## Sending -/

theorem StaysAbove.succ {env : Env M} {k : Nat} (h : StaysAbove env k) : StaysAbove env (k + 1) :=
  fun i hi => h i (Nat.le_of_succ_le hi)

theorem Blocked.succ {env : Env M} {k : Nat} (h : Blocked env k) : Blocked env (k + 1) :=
  fun j hj => h j (Nat.le_of_succ_le hj)

/-- `pushTCPFrame`: above the watermark the flag is set, below it the frame is pushed; a guarded
    session that is marked for closing is above. -/
theorem hushes_pushTCPFrame (env : Env M) (track : Track) (channel : Int) (rtp : Bytes)
    (s : Session M) : ∃ l, Hushes env s l (s.pushTCPFrame env track channel rtp) := by
  unfold pushTCPFrame
  split
  · next habove =>
      refine ⟨[.dropped track rtp], rfl, fun _ => rfl, fun hg => ?_, fun _ => ?_,
        fun _ _ _ _ => rfl, fun _ _ e he => ?_⟩
      · exact ⟨hg.useTcp, hg.stays.succ, fun _ => (hg.stays _ (Nat.le_refl _) habove).succ⟩
      · exact List.pairwise_singleton _ _
      · rw [List.mem_singleton.mp he]
        rfl
  · next hbelow =>
      refine ⟨[.interleaved track (tcpFrame channel rtp)], rfl, id, fun hg => ?_, fun _ => ?_,
        fun _ e he hd => ?_, fun hg hc e he => ?_⟩
      · exact ⟨hg.useTcp, hg.stays.succ, fun hc => (hg.blocked hc).succ⟩
      · exact List.pairwise_singleton _ _
      · rw [List.mem_singleton.mp he] at hd
        cases hd
      · exact absurd (hg.blocked hc s.loads (Nat.le_refl _)) hbelow

/-- A session that is not over TCP is not guarded. -/
theorem hushes_sendDatagram (env : Env M) (track : Track) (sender : Option UdpSender)
    (rtp : Bytes) {s : Session M} (h : ¬ s.useTcp = true) :
    ∃ l, Hushes env s l (s.sendDatagram track sender rtp) := by
  have hno : ¬ Guarded env s := fun hg => h hg.useTcp
  unfold sendDatagram
  split
  all_goals
    refine ⟨_, rfl, id, fun hg => absurd hg hno, fun hg => absurd hg hno,
      fun hg => absurd hg hno, fun hg => absurd hg hno⟩

theorem hushes_sendVideoRTP (env : Env M) (payload : Bytes) (ts : UInt32) (marker : Bool)
    (s : Session M) : ∃ l, Hushes env s l (s.sendVideoRTP env payload ts marker) := by
  have hseq : Hushes env s [] { s with rtpSeq := s.rtpSeq + 1 } :=
    .of_quiet [] (List.append_nil _).symm rfl rfl rfl fun _ he => nomatch he
  unfold sendVideoRTP
  dsimp only
  split
  · obtain ⟨l, hl⟩ := hushes_pushTCPFrame env .video s.rtpChannel _ { s with rtpSeq := s.rtpSeq + 1 }
    exact ⟨_, hseq.trans hl⟩
  · next htcp =>
      obtain ⟨l, hl⟩ := hushes_sendDatagram (s := { s with rtpSeq := s.rtpSeq + 1 }) env .video
        s.rtpSender (RTPPacket.build payload (toByte payloadType) s.rtpSeq ts s.ssrc marker) htcp
      exact ⟨_, hseq.trans hl⟩

theorem hushes_sendOneAudio (env : Env M) (ap : AudioPacket) (s : Session M) :
    ∃ l, Hushes env s l (s.sendOneAudio env ap) := by
  have hseq : Hushes env s [] { s with audioRtpSeq := s.audioRtpSeq + 1 } :=
    .of_quiet [] (List.append_nil _).symm rfl rfl rfl fun _ he => nomatch he
  unfold sendOneAudio sendAudioRTP
  dsimp only
  split
  · exact ⟨[], .refl env s⟩
  · split
    · obtain ⟨l, hl⟩ := hushes_pushTCPFrame env .audio s.audioRtpChannel _
        { s with audioRtpSeq := s.audioRtpSeq + 1 }
      exact ⟨_, hseq.trans hl⟩
    · next htcp =>
        obtain ⟨l, hl⟩ := hushes_sendDatagram (s := { s with audioRtpSeq := s.audioRtpSeq + 1 }) env
          .audio s.audioRtpSender _ htcp
        exact ⟨_, hseq.trans hl⟩

variable [IMediaSource M]

theorem Emits.hushes {env : Env M} {s s' : Session M} (h : Emits env s s') :
    ∃ l, Hushes env s l s' := by
  induction h with
  | refl => exact ⟨[], .refl env s⟩
  | @notes t u _ hn ih =>
      obtain ⟨l, hl⟩ := ih
      obtain ⟨l', hlog, hnotes⟩ := hn.log
      have hquiet : Hushes env t l' u := by
        refine .of_quiet l' hlog (congrArg Wire.useTcp hn.wire) (congrArg Wire.loads hn.wire)
          (congrArg Wire.closeAfterWrite hn.wire) fun e he => ?_
        have hnote := hnotes e he
        cases e <;> first | exact ⟨rfl, rfl⟩ | cases hnote
      exact ⟨l ++ l', hl.trans hquiet⟩
  | @video t _ payload ts marker _ ih =>
      obtain ⟨l, hl⟩ := ih
      obtain ⟨l', hl'⟩ := hushes_sendVideoRTP env payload ts marker t
      exact ⟨l ++ l', hl.trans hl'⟩
  | @audio t _ ap _ ih =>
      obtain ⟨l, hl⟩ := ih
      obtain ⟨l', hl'⟩ := hushes_sendOneAudio env ap t
      exact ⟨l ++ l', hl.trans hl'⟩

/-! ## The steps of a session -/

/-- The pacing part of a tick. When it does not stream, nothing happens at all. -/
theorem hushes_pace (env : Env M) (now : Int) (s : Session M) :
    ∃ l, Hushes env s l (s.pace env now) ∧ (¬ s.Streaming → l = []) := by
  obtain ⟨hemits, hidle⟩ := emits_pace env now s
  obtain ⟨l, hl⟩ := hemits.hushes
  exact ⟨l, hl, fun hs => List.self_eq_append_right.mp ((hidle hs).symm.trans hl.log)⟩

/-- Every producer is stopped once the session is marked for closing: a request is taken only if
    it is a SETUP that throws, so that nothing answers it, and a tick streams only over TCP with
    the outbox above the watermark. In a tick over TCP the outbox stays above the watermark once
    it is found there. -/
def Stopped : Handled M → SessionAct M → Prop
  | .ok s, .handle _ => s.closeAfterWrite = true →
      ∀ req rest, s.cmdQueue = req :: rest → SetupThrows req s
  | .ok s, .pace env _ => s.Streaming →
      (s.closeAfterWrite = true → s.useTcp = true ∧ Blocked env s.loads) ∧
        (s.useTcp = true → StaysAbove env s.loads)
  | _, _ => True

/-- In the step nothing is pushed or sent after the session is marked for closing: nothing at
    all if it was before, and in a tick over TCP nothing behind the packet that was dropped. -/
def Silent : Handled M → SessionAct M → Prop
  | .ok s, a => ∀ t, sessionStep (.ok s) a = some t → ∃ l, (sessionOf t).log = s.log ++ l ∧
      (s.closeAfterWrite = true → ∀ e ∈ l, e.isOutput = false) ∧
      (∀ env now, a = .pace env now → s.useTcp = true → StopsAtDrop l)
  | _, _ => True

omit [IMediaSource M] in
/-- A tick over TCP, or of a session that is marked for closing, is guarded. -/
theorem guarded_of_stopped {env : Env M} {now : Int} {s : Session M} (hs : s.Streaming)
    (h : Stopped (.ok s) (.pace env now)) (ht : s.closeAfterWrite = true ∨ s.useTcp = true) :
    Guarded env s := by
  obtain ⟨hclose, htcp⟩ := h hs
  have huse : s.useTcp = true := by
    rcases ht with hc | ht
    · exact (hclose hc).1
    · exact ht
  exact ⟨huse, htcp huse, fun hc => (hclose hc).2⟩

/-- A tick of a session whose producers are stopped. -/
theorem silent_pace {env : Env M} {now : Int} {s : Session M}
    (hC : Stopped (.ok s) (.pace env now)) : Silent (.ok s) (.pace env now) := by
  intro t h
  obtain rfl := Option.some.inj h
  obtain ⟨l, hl, hidle⟩ := hushes_pace env now s
  by_cases hs : s.Streaming
  · exact ⟨l, hl.log, fun hc => hl.silent (guarded_of_stopped hs hC (.inl hc)) hc,
      fun _ _ _ htcp => hl.stops (guarded_of_stopped hs hC (.inr htcp))⟩
  · obtain rfl := hidle hs
    exact ⟨[], hl.log, fun _ _ he => (nomatch he), fun _ _ _ _ => .nil⟩

theorem silent_handle {env : Env M} {s : Session M} (hC : Stopped (.ok s) (.handle env)) :
    Silent (.ok s) (.handle env) := by
  intro t h
  simp only [sessionStep] at h
  split at h
  · cases h
  · next req rest hq =>
      obtain rfl := Option.some.inj h
      by_cases hc : s.closeAfterWrite = true
      · -- the exception leaves before anything is answered
        obtain ⟨s', hres, hlog, -⟩ := (handleRequest_spec env req
          ({ s with cmdQueue := rest }.emit (.request req))).1 (hC hc req rest hq)
        refine ⟨[.request req], ?_, fun _ e he => ?_, fun _ _ ha => ?_⟩
        · rw [handleNext, hres]
          exact hlog
        · rw [List.mem_singleton.mp he]
          rfl
        · cases ha
      · obtain ⟨l, hl⟩ := handleNext_log env req rest s
        exact ⟨_, hl, fun hc' => absurd hc' hc, fun _ _ ha => by cases ha⟩

theorem silent_of_stopped {t : Handled M} {a : SessionAct M} (hC : Stopped t a) : Silent t a := by
  cases t with
  | error s => trivial
  | ok s =>
      cases a with
      | command req =>
          intro t h
          obtain rfl := Option.some.inj h
          exact ⟨[], (List.append_nil _).symm, fun _ _ he => (nomatch he), fun _ _ ha => by cases ha⟩
      | handle env => exact silent_handle hC
      | pace env now => exact silent_pace hC

/-! ## Runs -/

/-- While the producers are stopped, a session that is marked for closing stays so, or an
    exception ends its run. -/
theorem marked_step {t t' : Handled M} {a : SessionAct M} (hC : Stopped t a)
    (hmark : (sessionOf t).closeAfterWrite = true) (h : sessionStep t a = some t') :
    (sessionOf t').closeAfterWrite = true ∨ ∃ s, t' = .error s := by
  cases t with
  | error s => cases h
  | ok s =>
      cases a with
      | command req =>
          obtain rfl := Option.some.inj h
          exact .inl hmark
      | handle env =>
          simp only [sessionStep] at h
          split at h
          · cases h
          · next req rest hq =>
              obtain rfl := Option.some.inj h
              obtain ⟨s', hres, -⟩ := (handleRequest_spec env req
                ({ s with cmdQueue := rest }.emit (.request req))).1 (hC hmark req rest hq)
              exact .inr ⟨s', hres⟩
      | pace env now =>
          obtain rfl := Option.some.inj h
          obtain ⟨l, hl, -⟩ := hushes_pace env now s
          exact .inl (hl.close hmark)

theorem outputs_append (l l' : List Event) : outputs (l ++ l') = outputs l ++ outputs l' :=
  List.filter_append ..

theorem outputs_nil {l : List Event} (h : ∀ e ∈ l, e.isOutput = false) : outputs l = [] := by
  rw [outputs, List.filter_eq_nil_iff]
  intro e he
  rw [h e he]
  exact Bool.false_ne_true

/-- One step of a session that is marked for closing. -/
theorem outputs_step {t t' : Handled M} {a : SessionAct M} (hC : Stopped t a)
    (hmark : (sessionOf t).closeAfterWrite = true) (h : sessionStep t a = some t') :
    outputs (sessionOf t').log = outputs (sessionOf t).log := by
  cases t with
  | error s => cases h
  | ok s =>
      obtain ⟨l, hlog, hsilent, -⟩ := silent_of_stopped hC t' h
      rw [hlog, outputs_append, outputs_nil (hsilent hmark), List.append_nil]
      rfl

/-- From the mark on. -/
theorem outputs_run {t t' : Handled M} {as : List (SessionAct M)}
    (hC : Lts.Along sessionStep Stopped t as) (hmark : (sessionOf t).closeAfterWrite = true)
    (h : Lts.run sessionStep t as = some t') :
    outputs (sessionOf t').log = outputs (sessionOf t).log := by
  induction as generalizing t with
  | nil =>
      obtain rfl := Option.some.inj h
      rfl
  | cons a as ih =>
      obtain ⟨u, hu, hr⟩ := Lts.run_cons h
      rw [Lts.Along, hu] at hC
      have hone := outputs_step hC.1 hmark hu
      rcases marked_step hC.1 hmark hu with hmark' | ⟨s, rfl⟩
      · exact (ih hC.2 hmark' hr).trans hone
      · obtain rfl := run_of_error hr
        exact hone

/-- **Nothing is sent after the session is marked for closing**, in every run from any state of a
    session in which the producers are stopped once `close_after_write_` is set: from every state
    of the run in which it is set, nothing more is pushed or sent, and in a tick that sets it
    nothing behind the packet at which it was set. -/
theorem silent_after_close (s : Session M) (before after : List (SessionAct M)) (u t : Handled M)
    (hC : Lts.Along sessionStep Stopped (.ok s) (before ++ after))
    (hu : Lts.run sessionStep (.ok s) before = some u) (ht : Lts.run sessionStep u after = some t) :
    ((sessionOf u).closeAfterWrite = true → outputs (sessionOf t).log = outputs (sessionOf u).log) ∧
      Lts.Along sessionStep Silent (.ok s) (before ++ after) := by
  refine ⟨fun hmark => outputs_run (Lts.along_append hu hC).2 hmark ht, ?_⟩
  exact Lts.along_mono (fun _ _ => silent_of_stopped) hC

def teardownRequest : RTSPRequest :=
  { method := ascii "TEARDOWN", url := ascii "rtsp://h/a.mp4", version := ascii "RTSP/1.0"
    headers := (∅ : HeaderMap).insert (ascii "cseq") (ascii "5"), body := [] }

def optionsRequest : RTSPRequest :=
  { method := ascii "OPTIONS", url := ascii "*", version := ascii "RTSP/1.0"
    headers := (∅ : HeaderMap).insert (ascii "cseq") (ascii "6"), body := [] }

/-- A TEARDOWN is answered; the ticks that follow send nothing. -/
theorem silent_after_close_teardown : ∃ u t,
    Lts.run sessionStep (.ok client) (exchange teardownRequest) = some u ∧
      Lts.run sessionStep u [.pace oneFile 1, .pace oneFile 2] = some t ∧
      (sessionOf u).closeAfterWrite = true ∧
      outputs (sessionOf t).log = outputs (sessionOf u).log := by
  have hrun : (Lts.run sessionStep (.ok client) (exchange teardownRequest)).map
      (fun t => (Except.isOk t, (sessionOf t).closeAfterWrite, (sessionOf t).state)) =
        some (true, true, .init) := by
    decide +kernel
  obtain ⟨u, hu, hend⟩ := Option.map_eq_some_iff.mp hrun
  obtain ⟨hok, hclose, hstate⟩ : Except.isOk u = true ∧ (sessionOf u).closeAfterWrite = true ∧
      (sessionOf u).state = .init := by
    simpa only [Prod.mk.injEq] using hend
  cases u with
  | error s => cases hok
  | ok s =>
      -- the state is INIT, so no tick streams
      have hidle : ∀ now s', s'.state = .init → Stopped (.ok s') (.pace oneFile now) ∧
          (s'.pace oneFile now).state = .init := by
        intro now s' hinit
        refine ⟨fun hs => absurd (hinit.symm.trans hs.1) (by decide), ?_⟩
        rcases pace_cases oneFile now s' with ⟨pause, pending, -, heq⟩ | ⟨_, _, -, hplay, -⟩
        · rw [heq]
          exact hinit
        · exact absurd (hinit.symm.trans hplay) (by decide)
      obtain ⟨hstop, hstate'⟩ := hidle 1 s hstate
      have hC : Lts.Along sessionStep Stopped (.ok client)
          (exchange teardownRequest ++ [.pace oneFile 1, .pace oneFile 2]) := by
        refine ⟨trivial, fun hc => ?_, ?_⟩
        · cases hc
        · obtain ⟨u', hu', hr'⟩ := Lts.run_cons hu
          obtain rfl := Option.some.inj hu'
          obtain ⟨u', hu', hr'⟩ := Lts.run_cons hr'
          rw [hu']
          obtain rfl := Option.some.inj hr'
          exact ⟨hstop, (hidle 2 _ hstate').1, trivial⟩
      exact ⟨_, _, hu, rfl, hclose,
        (silent_after_close client _ _ _ _ hC hu rfl).1 hclose⟩

/-- What the two ticks of a session with these commands have sent. -/
def sentByTicks (reqs : List RTSPRequest) : Option (Bool × Nat × Nat) :=
  match { client with cmdQueue := reqs }.pacerTick (fun _ => oneFile) 1 with
  | .error _ => none
  | .ok u =>
      match u.pacerTick (fun _ => oneFile) 2 with
      | .error _ => none
      | .ok t => some (u.closeAfterWrite, (outputs u.log).length, (outputs t.log).length)

/-- An OPTIONS pipelined behind the TEARDOWN is answered by the next tick. -/
theorem pipelined_answered : ∃ u t,
    { client with cmdQueue := [teardownRequest, optionsRequest] }.pacerTick (fun _ => oneFile) 1 =
        .ok u ∧
      u.pacerTick (fun _ => oneFile) 2 = .ok t ∧
      ¬ (u.closeAfterWrite = true → outputs t.log = outputs u.log) := by
  have hsent : sentByTicks [teardownRequest, optionsRequest] = some (true, 1, 2) := by
    decide +kernel
  unfold sentByTicks at hsent
  split at hsent
  · cases hsent
  · next u hu =>
      split at hsent
      · cases hsent
      · next t ht =>
          simp only [Option.some.injEq, Prod.mk.injEq] at hsent
          refine ⟨u, t, hu, ht, fun h => ?_⟩
          have := congrArg List.length (h hsent.1)
          omega

end RtspServer
