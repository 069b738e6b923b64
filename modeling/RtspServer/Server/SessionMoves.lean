/-
  What a request can do to the pacing of a session. Only DESCRIBE and PLAY touch it. A PLAY in
  PAUSED resumes and leaves it alone; in READY and PLAYING it seeks, with a Scale header to the
  last key frame and otherwise afresh.

  * `serves_handleRequest`: the cases of a request other than DESCRIBE.
  * `log_step`: the log of a session only grows, so that the results about passes can use
    `Lts.run_events`.
  * `transportUp_of_run`: outside of INIT the video transport is set up.
-/
import RtspServer.Server.PacerMoves
import RtspServer.Server.SessionState

namespace RtspServer

open ByteString Session IMediaSource

variable {M : Type}

/-- The session plays or is paused. -/
def Session.Active (s : Session M) : Prop := s.state = .playing ∨ s.state = .paused

theorem Session.Active.of_eq {s s' : Session M} (h : s'.Active) (heq : s'.state = s.state) :
    s.Active := by
  unfold Active at h ⊢
  rwa [heq] at h

variable [IMediaSource M]

/-- What a request other than DESCRIBE comes to. -/
inductive Serves (req : RTSPRequest) (s s' : Session M) : Prop where
  /-- the pacing is left alone, and the session does not start to play; a PLAY is refused or
      resumes -/
  | aside (h : Aside s s') (hactive : s'.Active → s.Active)
      (hplay : req.method = ascii "PLAY" → s.state = .init ∨ s.state = .paused)
  /-- PLAY with a Scale header outside of PAUSED -/
  | scales (hplay : req.method = ascii "PLAY") (hinit : s.state ≠ .init)
      (hpaused : s.state ≠ .paused) (hscale : req.header (ascii "scale") ≠ [])
      (h : Aside (s.seekAndReset s.lastKeyframeNpt true) s') (hstate : s'.state = .playing)
  /-- PLAY outside of PAUSED -/
  | plays (start stop : Rat) (hplay : req.method = ascii "PLAY") (hinit : s.state ≠ .init)
      (hpaused : s.state ≠ .paused) (hscale : req.header (ascii "scale") = [])
      (h : Aside ((s.freshPlay start stop).rtpInfo req.url).2 s') (hstate : s'.state = .playing)

theorem serves_handlePlay (env : Env M) {req : RTSPRequest} (s : Session M)
    (hplay : req.method = ascii "PLAY") : Serves req s (s.handlePlay env req) := by
  unfold handlePlay
  dsimp only
  split
  · next hinit =>
      exact .aside ((Aside.refl s).sendError env _ _ _) (fun h => h.of_eq rfl) fun _ => .inl hinit
  · next hinit =>
      split
      · next hpaused =>
          exact .aside ((aside_resumePlay env s).trans (aside_playDone env req _ _ _))
            (fun _ => .inr hpaused) fun _ => .inr hpaused
      · next hpaused =>
          split
          · next hscale =>
              exact .scales hplay hinit hpaused hscale (aside_playDone env req _ _ _) rfl
          · next hscale =>
              exact .plays _ _ hplay hinit hpaused (not_not.mp hscale)
                (aside_playDone env req _ _ _) rfl

omit [IMediaSource M] in
/-- SETUP leaves the session as it is, or READY. -/
theorem active_handleSetup (env : Env M) {req : RTSPRequest} (s : Session M)
    (hm : req.method = ascii "SETUP") (h : (sessionOf (s.handleSetup env req)).Active) :
    s.Active := by
  obtain ⟨hthrows, hanswers⟩ := handleSetup_spec env s hm
  by_cases hthrow : SetupThrows req s
  · obtain ⟨s', hres, -, -, hstate, -⟩ := hthrows hthrow
    rw [hres] at h
    exact h.of_eq hstate
  · obtain ⟨s', hres, -, ⟨-, hsets⟩, -⟩ := hanswers hthrow
    rw [hres] at h
    rcases hsets with ⟨hstate, -⟩ | ⟨hstate, -⟩
    · exact h.of_eq hstate
    · have h : s'.state = .playing ∨ s'.state = .paused := h
      rw [hstate] at h
      rcases h with h | h <;> cases h

theorem serves_handleRequest (env : Env M) {req : RTSPRequest} (s : Session M)
    (hdescribe : req.method ≠ ascii "DESCRIBE") :
    Serves req s (sessionOf (s.handleRequest env req)) := by
  by_cases hplay : req.method = ascii "PLAY"
  · rw [handleRequest_play env s hplay]
    exact serves_handlePlay env s hplay
  · refine .aside (aside_handleRequest env s hdescribe hplay) ?_ fun h => absurd h hplay
    unfold handleRequest
    rw [if_neg hdescribe, if_neg hplay]
    repeat' split
    · exact fun h => h.of_eq rfl
    · next hm => exact active_handleSetup env s hm
    · intro h
      change (s.handlePause env req).Active at h
      unfold handlePause at h
      split at h
      · exact h.of_eq rfl
      · next hplaying => exact .inl (not_not.mp hplaying)
    · intro h
      rcases h with h | h <;> cases h
    · exact fun h => h.of_eq rfl

/-! ## Seeks -/

/-- Where `seekAndReset` leaves the source. -/
def Session.soughtSource (secs : Rat) (adjust : Bool) (source : M) (s : Session M) : M :=
  let source := seekToSeconds secs source
  if adjust ∧ s.lastVideoRtp ≠ 0 ∧ rtpOffset source < s.lastVideoRtp then
    adjustRTPOffset (s.lastVideoRtp - rtpOffset source) source
  else source

/-- `seekAndReset`: without a source nothing happens. -/
theorem seekAndReset_eq (secs : Rat) (adjust : Bool) (s : Session M) :
    (s.mediaSource = none ∧ s.seekAndReset secs adjust = s) ∨
    ∃ source, s.mediaSource = some source ∧ s.seekAndReset secs adjust =
      { s with
        mediaSource := some (s.soughtSource secs adjust source), firstFrame := true
        pendingVp := none, pendingAp := none, log := s.log ++ [.sought] } := by
  unfold seekAndReset soughtSource
  split
  · next hnone => exact .inl ⟨hnone, rfl⟩
  · next source hsource => exact .inr ⟨source, hsource, rfl⟩

/-- The RTP-Info header of a fresh play makes the source read one frame ahead. -/
theorem rtpInfo_eq (url : Bytes) (s : Session M) :
    (s.rtpInfo url).2 =
      { s with mediaSource := s.mediaSource.map fun m => (peekNextVideoRTPTimestamp m).2 } := by
  unfold rtpInfo
  cases hsource : s.mediaSource with
  | none =>
      dsimp only [Option.map_none]
      rw [← hsource]
  | some source => rfl

/-! ## Steps -/

/-- The request that the step handles, if any, meets `P`. -/
def OnRequest (P : RTSPRequest → Session M → Prop) : Handled M → SessionAct M → Prop
  | .ok s, .handle _ => ∀ req ∈ s.cmdQueue.head?, P req s
  | _, _ => True

instance decidableOnRequest (P : RTSPRequest → Session M → Prop) [∀ req s, Decidable (P req s)] :
    ∀ (t : Handled M) (a : SessionAct M), Decidable (OnRequest P t a)
  | .ok s, .handle _ => inferInstanceAs (Decidable (∀ req ∈ s.cmdQueue.head?, P req s))
  | .ok _, .command _ => isTrue trivial
  | .ok _, .pace _ _ => isTrue trivial
  | .error _, _ => isTrue trivial

/-- A handled request is the first of the queue. -/
theorem handle_cases {s : Session M} {env : Env M} {t : Handled M}
    (h : sessionStep (.ok s) (.handle env) = some t) :
    ∃ req rest, s.cmdQueue = req :: rest ∧ t = s.handleNext env req rest := by
  simp only [sessionStep] at h
  split at h
  · cases h
  · next req rest hq => exact ⟨req, rest, hq, (Option.some.inj h).symm⟩

theorem handleNext_log (env : Env M) (req : RTSPRequest) (rest : List RTSPRequest)
    (s : Session M) :
    ∃ l, (sessionOf (s.handleNext env req rest)).log = s.log ++ .request req :: l := by
  obtain ⟨l, hlog, -⟩ :=
    (quiet_handleRequest env req ({ s with cmdQueue := rest }.emit (.request req))).log
  exact ⟨l, hlog.trans (List.append_assoc ..)⟩

/-- The events of a tick. -/
theorem Ticks.log {env : Env M} {now : Int} {s s' : Session M} (h : Ticks env now s s') :
    ∃ l, s'.log = s.log ++ l := by
  cases h with
  | idle h =>
      obtain ⟨pause, heq⟩ := notStreaming_eq now s
      rw [heq]
      exact ⟨[], (List.append_nil _).symm⟩
  | passes _ _ h =>
      rcases h.log with h | h
      · exact ⟨[], by rw [h, List.append_nil]⟩
      · exact ⟨_, h⟩
  | waits _ _ h => exact ⟨_, congrArg (· ++ _) h.log⟩
  | @starts _ source' vp t _ _ h =>
      obtain ⟨packets, hlog, -⟩ := starts_log env now source' vp t
      rw [h.log] at hlog
      exact ⟨_, hlog⟩
  | @sends _ source' vp t _ _ h =>
      obtain ⟨packets, hlog, -⟩ := sends_log env now source' vp t
      rw [h.log] at hlog
      exact ⟨_, hlog⟩

/-- A tick that sends a frame holds it before, and it is the only one. -/
theorem Ticks.sending {env : Env M} {now : Int} {s s' : Session M} {l : List Event}
    {vp : VideoPacket} (h : Ticks env now s s') (hlog : s'.log = s.log ++ l)
    (hl : .sending vp ∈ l) :
    ∃ source source' t packets, s.mediaSource = some source ∧ Holds now source s vp source' t ∧
      (∀ e ∈ packets, e.packetTrack.isSome = true) ∧
      (s.firstFrame = true ∧
        s' = ((t.anchorAt now source' vp).emit (.timed vp 0)).deliver env now source' vp ∧
        l = .anchored vp now :: .timed vp 0 :: .sending vp :: packets ∨
      s.firstFrame = false ∧
        s' = (t.emit (.timed vp (t.mediaTicks vp))).deliver env now source' vp ∧
        l = .timed vp (t.mediaTicks vp) :: .sending vp :: packets) := by
  rcases h.events hlog with rfl | ⟨_, _, _, _, -, -, rfl, -⟩ | ⟨_, _, rfl⟩ |
    ⟨source, source', vp', t, packets, -, hsource, hh, hp, hsent⟩
  · cases hl
  · simp at hl
  · simp at hl
  · have hno : .sending vp ∉ packets := not_mem_packets rfl hp
    obtain rfl : vp = vp' := by
      rcases hsent with ⟨-, -, rfl⟩ | ⟨-, -, rfl⟩ <;> simpa [hno] using hl
    exact ⟨source, source', t, packets, hsource, hh, hp, hsent⟩

/-- A tick that seeks has met the end of the source. -/
theorem Ticks.sought {env : Env M} {now : Int} {s s' : Session M} {l : List Event}
    (h : Ticks env now s s') (hlog : s'.log = s.log ++ l) (hl : .sought ∈ l) :
    ∃ source source' wall pause, s.mediaSource = some source ∧
      readPacket source = (none, source') ∧ l = [.sought] ∧
      s' = { s with wallStart := wall, pauseStart := pause, pendingVp := none }.loopSource source' := by
  rcases h.events hlog with rfl | hsought | ⟨_, _, rfl⟩ | ⟨_, _, vp, t, packets, -, -, -, hp, hsent⟩
  · cases hl
  · exact hsought
  · simp at hl
  · have hno : .sought ∉ packets := not_mem_packets rfl hp
    rcases hsent with ⟨-, -, rfl⟩ | ⟨-, -, rfl⟩ <;> exact absurd hl (by simpa using hno)

/-- The events of a request: its answer, and before it a seek. -/
theorem handleRequest_events (env : Env M) (req : RTSPRequest) (s : Session M) :
    ∃ l, (sessionOf (s.handleRequest env req)).log = s.log ++ l ∧
      ∀ e ∈ l, e = .sought ∨ e.isExchange = true := by
  have haside : ∀ {t s' : Session M}, Aside t s' → (t.log = s.log ∨ t.log = s.log ++ [.sought]) →
      ∃ l, s'.log = s.log ++ l ∧ ∀ e ∈ l, e = .sought ∨ e.isExchange = true := by
    intro t s' ha ht
    obtain ⟨tail, htail, hex⟩ := ha.log
    rcases ht with ht | ht
    · exact ⟨tail, by rw [htail, ht], fun e he => .inr (hex e he)⟩
    · refine ⟨.sought :: tail, by rw [htail, ht, List.append_assoc]; rfl, fun e he => ?_⟩
      rcases List.mem_cons.mp he with he | he
      · exact .inl he
      · exact .inr (hex e he)
  by_cases hdescribe : req.method = ascii "DESCRIBE"
  · rw [handleRequest_describe env s hdescribe]
    obtain ⟨l, hl, hevents⟩ := haside (aside_handleDescribe env req s) (.inl rfl)
    exact ⟨l, hl, hevents⟩
  · have hseek : ∀ secs adjust, (s.seekAndReset secs adjust).log = s.log ∨
        (s.seekAndReset secs adjust).log = s.log ++ [.sought] := by
      intro secs adjust
      rcases seekAndReset_eq secs adjust s with ⟨-, heq⟩ | ⟨source, -, heq⟩
      · exact .inl (congrArg Session.log heq)
      · exact .inr (congrArg Session.log heq)
    cases serves_handleRequest env s hdescribe with
    | aside ha => exact haside ha (.inl rfl)
    | scales _ _ _ _ ha => exact haside ha (hseek _ _)
    | plays start stop _ _ _ _ ha =>
        rw [rtpInfo_eq] at ha
        exact haside ha (hseek start false)

omit [IMediaSource M] in
theorem packetTrack_of_isExchange {e : Event} (h : e.isExchange = true) :
    e.packetTrack = none := by
  cases e <;> first | rfl | cases h

/-- A handled request sends no packet. -/
theorem handleNext_noPackets (env : Env M) (req : RTSPRequest) (rest : List RTSPRequest)
    {s : Session M} {l : List Event}
    (hlog : (sessionOf (s.handleNext env req rest)).log = s.log ++ l) :
    ∀ e ∈ l, e.packetTrack = none := by
  obtain ⟨l', hl', hevents⟩ := handleRequest_events env req
    ({ s with cmdQueue := rest }.emit (.request req))
  obtain rfl : l = .request req :: l' := by
    have hsame := hlog.symm.trans hl'
    rw [emit, List.append_assoc] at hsame
    exact List.append_cancel_left hsame
  intro e he
  rcases List.mem_cons.mp he with rfl | he
  · rfl
  · rcases hevents e he with rfl | hex
    · rfl
    · exact packetTrack_of_isExchange hex

/-- The log of a session only grows. -/
theorem log_step {t t' : Handled M} {a : SessionAct M} (h : sessionStep t a = some t') :
    ∃ l, (sessionOf t').log = (sessionOf t).log ++ l := by
  cases t with
  | error s => cases h
  | ok s =>
      cases a with
      | command req =>
          obtain rfl := Option.some.inj h
          exact ⟨[], (List.append_nil _).symm⟩
      | handle env =>
          obtain ⟨req, rest, -, rfl⟩ := handle_cases h
          obtain ⟨l, hl⟩ := handleNext_log env req rest s
          exact ⟨_, hl⟩
      | pace env now =>
          obtain rfl := Option.some.inj h
          exact (ticks_pace env now s).log

/-- After a seek: nothing is held and the next frame anchors the clock. -/
def Session.Restarted (s : Session M) : Prop :=
  s.firstFrame = true ∧ s.pendingVp = none ∧ s.pendingAp = none ∧ ∃ m, s.mediaSource = some m

omit [IMediaSource M] in
theorem not_sought_of_exchange {l : List Event} (h : ∀ e ∈ l, e.isExchange = true) :
    .sought ∉ l := fun hmem => Bool.noConfusion (h _ hmem)

omit [IMediaSource M] in
theorem Session.Restarted.aside {s s' : Session M} (h : s.Restarted) (ha : Aside s s') :
    s'.Restarted := by
  obtain ⟨hff, hvp, hap, m, hm⟩ := h
  exact ⟨(congrArg Stream.firstFrame ha.stream).trans hff,
    (congrArg Stream.pendingVp ha.stream).trans hvp,
    (congrArg Stream.pendingAp ha.stream).trans hap, m,
    (congrArg Stream.source ha.stream).trans hm⟩

omit [IMediaSource M] in
/-- The answer after a seek, or after none for want of a source. -/
theorem sought_before_answer {s t s' : Session M} {l : List Event} (h : Aside t s')
    (ht : s.mediaSource = none ∧ t.log = s.log ∨
      t.log = s.log ++ [.sought] ∧ t.Restarted) (hlog : s'.log = s.log ++ l) :
    (s.mediaSource = none ∧ .sought ∉ l) ∨ (.sought ∈ l ∧ s'.Restarted) := by
  obtain ⟨tail, htail, hex⟩ := h.log
  rcases ht with ⟨hnone, hsame⟩ | ⟨hsought, hrestarted⟩
  · rw [htail, hsame] at hlog
    rw [← List.append_cancel_left hlog]
    exact .inl ⟨hnone, not_sought_of_exchange hex⟩
  · rw [htail, hsought, List.append_assoc] at hlog
    rw [← List.append_cancel_left hlog]
    exact .inr ⟨List.mem_cons_self, hrestarted.aside h⟩

/-- A request other than DESCRIBE leaves the pacing alone or seeks. -/
theorem Serves.sought_or {req : RTSPRequest} {s s' : Session M} {l : List Event}
    (h : Serves req s s') (hlog : s'.log = s.log ++ l) :
    (Aside s s' ∧ (s'.Active → s.Active)) ∨ (s.mediaSource = none ∧ .sought ∉ l) ∨
      (.sought ∈ l ∧ s'.Restarted) := by
  cases h with
  | aside ha hactive => exact .inl ⟨ha, hactive⟩
  | scales _ _ _ _ ha =>
      refine .inr (sought_before_answer ha ?_ hlog)
      rcases seekAndReset_eq s.lastKeyframeNpt true s with ⟨hnone, heq⟩ | ⟨source, -, heq⟩
      · exact .inl ⟨hnone, congrArg Session.log heq⟩
      · rw [heq]
        exact .inr ⟨rfl, rfl, rfl, rfl, _, rfl⟩
  | plays start stop _ _ _ _ ha =>
      refine .inr (sought_before_answer ha ?_ hlog)
      rw [rtpInfo_eq]
      unfold freshPlay
      rcases seekAndReset_eq start false s with ⟨hnone, heq⟩ | ⟨source, -, heq⟩
      · rw [heq]
        exact .inl ⟨hnone, rfl⟩
      · rw [heq]
        exact .inr ⟨rfl, rfl, rfl, rfl, _, rfl⟩

/-- A handled request, the taking of it apart. -/
theorem handleNext_serves (env : Env M) {req : RTSPRequest} (rest : List RTSPRequest)
    {s : Session M} {l : List Event} (hdescribe : req.method ≠ ascii "DESCRIBE")
    (hlog : (sessionOf (s.handleNext env req rest)).log = s.log ++ .request req :: l) :
    Serves req ({ s with cmdQueue := rest }.emit (.request req))
        (sessionOf (s.handleNext env req rest)) ∧
      (sessionOf (s.handleNext env req rest)).log =
        ({ s with cmdQueue := rest }.emit (.request req)).log ++ l :=
  ⟨serves_handleRequest env _ hdescribe,
    hlog.trans (List.append_assoc s.log [.request req] l).symm⟩

/-- A step that seeks. -/
theorem restarted_of_sought {s : Session M} {a : SessionAct M} {t : Handled M} {l : List Event}
    (h : sessionStep (.ok s) a = some t) (hlog : (sessionOf t).log = s.log ++ l)
    (hl : .sought ∈ l) : (sessionOf t).Restarted := by
  cases a with
  | command req =>
      obtain rfl := Option.some.inj h
      rw [List.self_eq_append_right.mp hlog] at hl
      cases hl
  | handle env =>
      obtain ⟨req, rest, -, rfl⟩ := handle_cases h
      obtain ⟨l', hl'⟩ := handleNext_log env req rest s
      rw [List.append_cancel_left (hlog.symm.trans hl')] at hl
      have hl : .sought ∈ l' := by simpa using hl
      by_cases hdescribe : req.method = ascii "DESCRIBE"
      · obtain ⟨-, tail, htail, hex⟩ := aside_handleDescribe env req
          ({ s with cmdQueue := rest }.emit (.request req))
        rw [handleNext, handleRequest_describe env _ hdescribe] at hl'
        have heq : l' = tail := by
          have := hl'.symm.trans htail
          rw [List.append_cons] at this
          exact List.append_cancel_left this
        rw [heq] at hl
        exact absurd hl (not_sought_of_exchange hex)
      · obtain ⟨hserves, hlog'⟩ := handleNext_serves env rest hdescribe hl'
        rcases hserves.sought_or hlog' with ⟨ha, -⟩ | ⟨-, hno⟩ | ⟨-, hr⟩
        · obtain ⟨tail, htail, hex⟩ := ha.log
          rw [List.append_cancel_left (hlog'.symm.trans htail)] at hl
          exact absurd hl (not_sought_of_exchange hex)
        · exact absurd hl hno
        · exact hr
  | pace env now =>
      obtain rfl := Option.some.inj h
      obtain ⟨_, _, _, _, -, -, -, heq⟩ := (ticks_pace env now s).sought hlog hl
      change (s.pace env now).Restarted
      rw [heq]
      exact ⟨rfl, rfl, rfl, _, rfl⟩

/-! ## The video transport -/

/-- Outside of INIT the video transport is set up. -/
def Session.TransportUp (s : Session M) : Prop := s.state ≠ .init → s.transportReady = true

omit [IMediaSource M] in
theorem Session.TransportUp.of_same {s s' : Session M} (h : s.TransportUp)
    (hstate : s.state = .init → s'.state = .init)
    (hready : s'.transportReady = s.transportReady) : s'.TransportUp :=
  fun hne => hready.trans (h fun hinit => hne (hstate hinit))

theorem transportUp_handleRequest (env : Env M) (req : RTSPRequest) {s : Session M}
    (h : s.TransportUp) : (sessionOf (s.handleRequest env req)).TransportUp := by
  unfold handleRequest
  split
  · exact h
  split
  · obtain ⟨-, hstate, hready, -⟩ := handleDescribe_spec env req s
    exact h.of_same (fun hi => hstate.trans hi) hready
  split
  · next hm =>
      obtain ⟨hthrows, hanswers⟩ := handleSetup_spec env s hm
      by_cases hthrow : SetupThrows req s
      · obtain ⟨s', hres, -, -, hstate, hready⟩ := hthrows hthrow
        rw [hres]
        exact h.of_same (fun hi => hstate.trans hi) hready
      · obtain ⟨s', hres, -, ⟨-, hsets⟩, -⟩ := hanswers hthrow
        rw [hres]
        rcases hsets with ⟨hstate, hready⟩ | ⟨-, hready⟩
        · exact h.of_same (fun hi => hstate.trans hi) hready
        · exact fun _ => hready
  split
  · obtain ⟨-, -, hready, hstate⟩ := handlePlay_spec env req s
    exact h.of_same hstate hready
  split
  · obtain ⟨-, -, hready, hstate⟩ := handlePause_spec env req s
    exact h.of_same hstate hready
  split
  · exact fun hne => absurd rfl hne
  · exact h

theorem transportUp_step {t t' : Handled M} {a : SessionAct M} (hI : (sessionOf t).TransportUp)
    (h : sessionStep t a = some t') : (sessionOf t').TransportUp := by
  cases t with
  | error s => cases h
  | ok s =>
      cases a with
      | command req =>
          obtain rfl := Option.some.inj h
          exact hI
      | handle env =>
          obtain ⟨req, rest, -, rfl⟩ := handle_cases h
          exact transportUp_handleRequest env req hI
      | pace env now =>
          obtain rfl := Option.some.inj h
          change (s.pace env now).TransportUp
          rcases pace_cases env now s with ⟨pause, pending, -, heq⟩ | ⟨_, _, -, -, hready, -⟩
          · rw [heq]
            exact hI
          · exact fun _ => (paces_pace env now s).ready.trans hready

theorem transportUp_of_run {clientIp mediaRoot sessionId : Bytes} {ssrc audioSsrc : UInt32}
    {as : List (SessionAct M)} {t : Handled M}
    (h : Lts.run sessionStep (.ok (Session.new clientIp mediaRoot sessionId ssrc audioSsrc)) as =
      some t) : (sessionOf t).TransportUp := by
  refine Lts.run_stable (I := fun u => (sessionOf u).TransportUp)
    (fun _ _ _ hI h => transportUp_step hI h) ?_ h
  exact fun hne => absurd rfl hne

end RtspServer
