/-
  The clock of a session over pauses. `wall_start_` is the clock at which the media time of the
  anchor is due; a pause moves it on by as long as it lasted.

  Three places see to this, with 0 of `pause_start_` for "not paused": the resuming PLAY, step 2
  of a tick while the session is paused, and step 3 of a tick that plays again. `Counted` is what
  holds between them: outside of a pause `pause_start_` is 0, so step 3 has nothing to do, and in
  one it is the clock of the PAUSE, so step 2 has nothing to do and the PLAY does all of it.

  `paused_time_counted_once`: from the tick that anchors the clock on, `wall_start_` is the clock
  of that tick and the lengths of the pauses that are over.
-/
import RtspServer.Server.SendPath
import RtspServer.Server.SessionMoves

namespace RtspServer

open ByteString Session IMediaSource

variable {M : Type}

/-! ## Pauses of a run -/

/-- A PAUSE that is accepted, or a PLAY that resumes, with its clock. -/
inductive PauseMark where
  | paused (now : Int)
  | resumed (now : Int)
  deriving DecidableEq

/-- The marks of a request. -/
def requestMarks (env : Env M) (req : RTSPRequest) (s : Session M) : List PauseMark :=
  if req.method = ascii "PAUSE" ∧ s.state = .playing then [.paused env.now]
  else if req.method = ascii "PLAY" ∧ s.state = .paused then [.resumed env.now]
  else []

/-- The marks of a step. -/
def pauseMarks : Handled M → SessionAct M → List PauseMark
  | .ok s, .handle env =>
      match s.cmdQueue with
      | [] => []
      | req :: _ => requestMarks env req s
  | _, _ => []

/-- The clocks of the accepted PAUSE requests. -/
def pauses (marks : List PauseMark) : List Int :=
  marks.filterMap fun m => match m with | .paused now => some now | .resumed _ => none

/-- The clocks of the PLAY requests that resume. -/
def resumes (marks : List PauseMark) : List Int :=
  marks.filterMap fun m => match m with | .resumed now => some now | .paused _ => none

/-- The time from each PAUSE to the PLAY that resumes it. -/
def pausedTime (marks : List PauseMark) : Int :=
  (List.zipWith (fun resume pause => resume - pause) (resumes marks) (pauses marks)).sum

/-- A request that may stand in such a run; the clock is not 0. DESCRIBE and SETUP change the
    media and the transport, TEARDOWN ends the session. -/
def PausesOnly (env : Env M) (req : RTSPRequest) : Prop :=
  env.now ≠ 0 ∧ req.method ∉ [ascii "DESCRIBE", ascii "SETUP", ascii "TEARDOWN"]

instance (env : Env M) (req : RTSPRequest) : Decidable (PausesOnly env req) :=
  inferInstanceAs (Decidable (_ ∧ _))

/-- A step without a seek, an end of the source and a stop at the end of the range. -/
def Uninterrupted [IMediaSource M] : Handled M → SessionAct M → Prop
  | .ok s, .handle env =>
      match s.cmdQueue with
      | [] => True
      | req :: rest => PausesOnly env req ∧
          .sought ∉ (sessionOf (s.handleNext env req rest)).log.drop s.log.length
  | .ok s, .pace env now =>
      .sought ∉ (s.pace env now).log.drop s.log.length ∧ (s.pace env now).state = s.state
  | _, _ => True

instance decidableUninterrupted [IMediaSource M] :
    ∀ (t : Handled M) (a : SessionAct M), Decidable (Uninterrupted t a)
  | .ok s, .handle env =>
      match h : s.cmdQueue with
      | [] => isTrue (by simp only [Uninterrupted, h])
      | req :: rest => decidable_of_iff (PausesOnly env req ∧
          Event.sought ∉ (sessionOf (s.handleNext env req rest)).log.drop s.log.length)
          (by simp only [Uninterrupted, h])
  | .ok _, .pace _ _ => inferInstanceAs (Decidable (_ ∧ _))
  | .ok _, .command _ => isTrue trivial
  | .error _, _ => isTrue trivial

/-- The clock of a session that was anchored at `t0`, after these marks. -/
structure Counted (t0 : Int) (marks : List PauseMark) (s : Session M) : Prop where
  active : s.Active
  wall : s.wallStart = t0 + pausedTime marks
  playing : s.state = .playing →
    s.pauseStart = 0 ∧ (resumes marks).length = (pauses marks).length
  paused : s.state = .paused → s.pauseStart ≠ 0 ∧
    ∃ before, pauses marks = before ++ [s.pauseStart] ∧ (resumes marks).length = before.length

/-- The invariant: between seeks, with a source. -/
structure Clocked (t0 : Int) (marks : List PauseMark) (s : Session M) : Prop where
  counted : Counted t0 marks s
  firstFrame : s.firstFrame = false
  source : s.mediaSource.isSome = true

theorem Counted.of_same {t0 : Int} {marks : List PauseMark} {s s' : Session M}
    (h : Counted t0 marks s) (hstate : s'.state = s.state) (hwall : s'.wallStart = s.wallStart)
    (hpause : s'.pauseStart = s.pauseStart) : Counted t0 marks s' := by
  refine ⟨?_, hwall.trans h.wall, fun hs => ?_, fun hs => ?_⟩
  · unfold Active
    rw [hstate]
    exact h.active
  · rw [hpause]
    exact h.playing (hstate.symm.trans hs)
  · rw [hpause]
    exact h.paused (hstate.symm.trans hs)

/-- A pause that is not over counts nothing. -/
theorem zipWith_open (rs before : List Int) (pause : Int) (h : rs.length = before.length) :
    List.zipWith (fun resume pause => resume - pause) rs (before ++ [pause]) =
      List.zipWith (fun resume pause => resume - pause) rs before := by
  have hzip : List.zipWith (fun resume pause => resume - pause) (rs ++ []) (before ++ [pause]) =
      List.zipWith (fun resume pause => resume - pause) rs before ++
        List.zipWith (fun resume pause => resume - pause) [] [pause] := List.zipWith_append h
  rwa [List.append_nil, List.zipWith_nil_left, List.append_nil] at hzip

theorem pauses_paused (marks : List PauseMark) (now : Int) :
    pauses (marks ++ [.paused now]) = pauses marks ++ [now] := by
  simp [pauses]

theorem resumes_paused (marks : List PauseMark) (now : Int) :
    resumes (marks ++ [.paused now]) = resumes marks := by
  simp [resumes]

theorem pauses_resumed (marks : List PauseMark) (now : Int) :
    pauses (marks ++ [.resumed now]) = pauses marks := by
  simp [pauses]

theorem resumes_resumed (marks : List PauseMark) (now : Int) :
    resumes (marks ++ [.resumed now]) = resumes marks ++ [now] := by
  simp [resumes]

/-- A PLAY that resumes counts the pause it ends. -/
theorem pausedTime_resumed {marks : List PauseMark} {before : List Int} (now pause : Int)
    (hpauses : pauses marks = before ++ [pause]) (h : (resumes marks).length = before.length) :
    pausedTime (marks ++ [.resumed now]) = pausedTime marks + (now - pause) := by
  have hzip : List.zipWith (fun resume pause => resume - pause) (resumes marks ++ [now])
      (before ++ [pause]) =
      List.zipWith (fun resume pause => resume - pause) (resumes marks) before ++ [now - pause] :=
    List.zipWith_append h
  rw [pausedTime, pausedTime, resumes_resumed, pauses_resumed, hpauses, hzip,
    zipWith_open _ _ _ h, List.sum_append, List.sum_singleton]

/-! ## Requests -/

theorem handlePause_playing (env : Env M) (req : RTSPRequest) {s : Session M}
    (h : s.state = .playing) : ∃ resp, s.handlePause env req =
      { s with pauseStart := env.now, state := .paused }.sendResponse resp := by
  unfold handlePause
  rw [if_neg (not_not.mpr h)]
  exact ⟨_, rfl⟩

theorem Counted.pause {t0 : Int} {marks : List PauseMark} {s : Session M} (h : Counted t0 marks s)
    {now : Int} (hnow : now ≠ 0) (hstate : s.state = .playing) :
    Counted t0 (marks ++ [.paused now]) { s with pauseStart := now, state := .paused } := by
  obtain ⟨-, hlength⟩ := h.playing hstate
  refine ⟨.inr rfl, ?_, (fun hs => nomatch hs), fun _ => ⟨hnow, pauses marks, ?_, ?_⟩⟩
  · rw [pausedTime, resumes_paused, pauses_paused, zipWith_open _ _ _ hlength]
    exact h.wall
  · exact pauses_paused marks now
  · rw [resumes_paused]
    exact hlength

theorem resumePlay_paused (env : Env M) {s : Session M} (hff : s.firstFrame = false)
    (h : s.pauseStart ≠ 0) : s.resumePlay env =
      { s with wallStart := s.wallStart + (env.now - s.pauseStart), pauseStart := 0 } := by
  unfold resumePlay
  rw [if_pos h, hff, if_neg Bool.false_ne_true]

theorem Counted.resume {t0 : Int} {marks : List PauseMark} {s : Session M}
    (h : Counted t0 marks s) (now : Int) (hstate : s.state = .paused) :
    Counted t0 (marks ++ [.resumed now]) { s with
      wallStart := s.wallStart + (now - s.pauseStart), pauseStart := 0, state := .playing } := by
  obtain ⟨-, before, hpauses, hlength⟩ := h.paused hstate
  refine ⟨.inl rfl, ?_, (fun _ => ⟨rfl, ?_⟩), (fun hs => nomatch hs)⟩
  · rw [pausedTime_resumed now s.pauseStart hpauses hlength, ← Int.add_assoc, ← h.wall]
  · rw [resumes_resumed, pauses_resumed, hpauses, List.length_append, List.length_append, hlength]
    rfl

variable [IMediaSource M]

/-- A PLAY of a session that plays seeks. -/
theorem sought_of_play {env : Env M} {req : RTSPRequest} {s : Session M} {l : List Event}
    (hplay : req.method = ascii "PLAY") (hstate : s.state = .playing)
    (hsource : s.mediaSource.isSome = true) (hlog : (s.handlePlay env req).log = s.log ++ l) :
    .sought ∈ l := by
  have hsome : ∀ {t : Session M}, s.mediaSource = none ∧ t = s → False := by
    intro t ht
    rw [ht.1] at hsource
    cases hsource
  have hanswer : ∀ {t : Session M}, Aside t (s.handlePlay env req) →
      t.log = s.log ++ [.sought] → .sought ∈ l := by
    intro t ha ht
    obtain ⟨tail, htail, -⟩ := ha.log
    rw [hlog, ht, List.append_assoc] at htail
    rw [List.append_cancel_left htail]
    exact List.mem_cons_self
  cases serves_handlePlay env s hplay with
  | aside _ _ hplay' =>
      rcases hplay' hplay with h | h <;> rw [h] at hstate <;> cases hstate
  | scales _ _ _ _ ha =>
      rcases seekAndReset_eq s.lastKeyframeNpt true s with hnone | ⟨source, -, heq⟩
      · exact (hsome hnone).elim
      · exact hanswer ha (congrArg Session.log heq)
  | plays start stop _ _ _ _ ha =>
      rw [rtpInfo_eq] at ha
      rcases seekAndReset_eq start false s with hnone | ⟨source, -, heq⟩
      · exact (hsome hnone).elim
      · exact hanswer ha (congrArg Session.log heq)

/-- Any other request of such a run is answered, and no more. -/
theorem answered_only (env : Env M) {req : RTSPRequest} (s : Session M)
    (hmethod : req.method ∉ [ascii "DESCRIBE", ascii "SETUP", ascii "TEARDOWN"])
    (hplay : req.method ≠ ascii "PLAY") (hpause : req.method ≠ ascii "PAUSE") :
    ∃ resp, sessionOf (s.handleRequest env req) = s.sendResponse resp := by
  simp only [List.mem_cons, List.not_mem_nil, or_false, not_or] at hmethod
  obtain ⟨hdescribe, hsetup, hteardown⟩ := hmethod
  unfold handleRequest
  rw [if_neg hdescribe, if_neg hsetup, if_neg hplay, if_neg hpause, if_neg hteardown]
  split <;> exact ⟨_, rfl⟩

section

variable {t0 : Int} {marks : List PauseMark} {s : Session M} {env : Env M} {req : RTSPRequest}

theorem clocked_pause (h : Clocked t0 marks s) (hnow : env.now ≠ 0)
    (hpause : req.method = ascii "PAUSE") :
    Clocked t0 (marks ++ requestMarks env req s) (sessionOf (s.handleRequest env req)) := by
  have hplay : req.method ≠ ascii "PLAY" := by rw [hpause]; decide
  have hrequest : sessionOf (s.handleRequest env req) = s.handlePause env req := by
    unfold handleRequest
    rw [hpause]
    rfl
  rw [hrequest]
  unfold requestMarks
  rcases h.counted.active with hstate | hstate
  · obtain ⟨resp, heq⟩ := handlePause_playing env req hstate
    rw [if_pos ⟨hpause, hstate⟩, heq]
    exact ⟨(h.counted.pause hnow hstate).of_same rfl rfl rfl, h.firstFrame, h.source⟩
  · have hno : s.state ≠ .playing := by rw [hstate]; exact fun h => nomatch h
    have heq : s.handlePause env req =
        s.sendError env req.cseq 455 "Method Not Valid In This State" := if_pos hno
    rw [if_neg (fun h => hno h.2), if_neg (fun h => hplay h.1), heq, List.append_nil]
    exact ⟨h.counted.of_same rfl rfl rfl, h.firstFrame, h.source⟩

theorem clocked_play (h : Clocked t0 marks s) (hplay : req.method = ascii "PLAY") {l : List Event}
    (hlog : (sessionOf (s.handleRequest env req)).log = s.log ++ l) (hseek : .sought ∉ l) :
    Clocked t0 (marks ++ requestMarks env req s) (sessionOf (s.handleRequest env req)) := by
  have hpause : req.method ≠ ascii "PAUSE" := by rw [hplay]; decide
  have hrequest : sessionOf (s.handleRequest env req) = s.handlePlay env req := by
    rw [handleRequest_play env s hplay]
    rfl
  rw [hrequest] at hlog ⊢
  rcases h.counted.active with hstate | hstate
  · exact absurd (sought_of_play hplay hstate h.source hlog) hseek
  · have heq : s.handlePlay env req =
        (s.resumePlay env).playDone env req (nptRange (max 0 s.lastNpt)) [] := by
      unfold handlePlay
      rw [if_neg (by rw [hstate]; exact fun h => nomatch h)]
      dsimp only
      rw [if_pos hstate]
    unfold requestMarks
    rw [if_neg (fun h => hpause h.1), if_pos ⟨hplay, hstate⟩, heq,
      resumePlay_paused env h.firstFrame (h.counted.paused hstate).1]
    exact ⟨(h.counted.resume env.now hstate).of_same rfl rfl rfl, h.firstFrame, h.source⟩

theorem clocked_other (h : Clocked t0 marks s)
    (hmethod : req.method ∉ [ascii "DESCRIBE", ascii "SETUP", ascii "TEARDOWN"])
    (hplay : req.method ≠ ascii "PLAY") (hpause : req.method ≠ ascii "PAUSE") :
    Clocked t0 (marks ++ requestMarks env req s) (sessionOf (s.handleRequest env req)) := by
  obtain ⟨resp, heq⟩ := answered_only env s hmethod hplay hpause
  unfold requestMarks
  rw [if_neg (fun h => hpause h.1), if_neg (fun h => hplay h.1), heq, List.append_nil]
  exact ⟨h.counted.of_same rfl rfl rfl, h.firstFrame, h.source⟩

theorem clocked_handle {rest : List RTSPRequest} (h : Clocked t0 marks s)
    (hq : s.cmdQueue = req :: rest) (hreq : PausesOnly env req)
    (hseek : .sought ∉ (sessionOf (s.handleNext env req rest)).log.drop s.log.length) :
    Clocked t0 (marks ++ pauseMarks (.ok s) (.handle env))
      (sessionOf (s.handleNext env req rest)) := by
  have hmarks : pauseMarks (.ok s) (.handle env) =
      requestMarks env req ({ s with cmdQueue := rest }.emit (.request req)) := by
    simp only [pauseMarks, hq]
    rfl
  have hnext : Clocked t0 marks ({ s with cmdQueue := rest }.emit (.request req)) :=
    ⟨h.counted.of_same rfl rfl rfl, h.firstFrame, h.source⟩
  rw [hmarks]
  by_cases hpause : req.method = ascii "PAUSE"
  · exact clocked_pause hnext hreq.1 hpause
  by_cases hplay : req.method = ascii "PLAY"
  · obtain ⟨l, hl, -⟩ := handleRequest_events env req
      ({ s with cmdQueue := rest }.emit (.request req))
    have hlog : (sessionOf (s.handleNext env req rest)).log = s.log ++ ([.request req] ++ l) :=
      hl.trans (List.append_assoc ..)
    rw [hlog, List.drop_left] at hseek
    exact clocked_play hnext hplay hl fun hmem => hseek (List.mem_append_right _ hmem)
  · exact clocked_other hnext hreq.2 hplay hpause

end

/-! ## Ticks -/

omit [IMediaSource M] in
/-- Step 2 on a clock that was set by the PAUSE. -/
theorem notStreaming_counted {t0 : Int} {marks : List PauseMark} {s : Session M}
    (h : Counted t0 marks s) (now : Int) :
    (s.notStreaming now).wallStart = s.wallStart ∧
      (s.notStreaming now).pauseStart = s.pauseStart := by
  have hno : ¬ (s.state = .paused ∧ s.pauseStart = 0) := fun hp => (h.paused hp.1).1 hp.2
  unfold notStreaming
  simp only [if_neg hno]
  split <;> exact ⟨rfl, rfl⟩

omit [IMediaSource M] in
/-- Step 3 on a clock that the PLAY has set right. -/
theorem clock_kept {s : Session M} {now wall pause : Int} (hpause : s.pauseStart = 0)
    (hclock : s.resumeClock now = { s with wallStart := wall, pauseStart := pause }) :
    wall = s.wallStart ∧ pause = s.pauseStart := by
  have hkept : s.resumeClock now = s := if_neg (not_not.mpr hpause)
  rw [hkept] at hclock
  exact ⟨(congrArg Session.wallStart hclock).symm, (congrArg Session.pauseStart hclock).symm⟩

omit [IMediaSource M] in
theorem clock_cleared {s : Session M} {now wall pause : Int}
    (hclock : s.resumeClock now = { s with wallStart := wall, pauseStart := pause }) :
    pause = 0 := by
  have hpause := congrArg Session.pauseStart hclock
  unfold resumeClock at hpause
  split at hpause
  · exact hpause.symm
  · next h => exact hpause.symm.trans (not_not.mp h)

theorem Holds.clock {now : Int} {source source' : M} {vp : VideoPacket} {s t : Session M}
    (h : Holds now source s vp source' t) : t.state = s.state ∧ t.pauseStart = 0 ∧
      (s.pauseStart = 0 → t.wallStart = s.wallStart) := by
  cases h with
  | kept _ _ _ hclock =>
      exact ⟨rfl, clock_cleared hclock, fun hp => (clock_kept hp hclock).1⟩
  | read _ _ _ _ hclock =>
      exact ⟨rfl, clock_cleared hclock, fun hp => (clock_kept hp hclock).1⟩

theorem clocked_pace {t0 : Int} {marks : List PauseMark} {s : Session M} (h : Clocked t0 marks s)
    (env : Env M) (now : Int) (hseek : .sought ∉ (s.pace env now).log.drop s.log.length)
    (hstop : (s.pace env now).state = s.state) : Clocked t0 marks (s.pace env now) := by
  have hticks := ticks_pace env now s
  generalize s.pace env now = s' at hticks hseek hstop ⊢
  cases hticks with
  | idle =>
      obtain ⟨hwall, hpause⟩ := notStreaming_counted h.counted now
      obtain ⟨pause, heq⟩ := notStreaming_eq now s
      refine ⟨h.counted.of_same hstop hwall hpause, ?_, ?_⟩
      · rw [heq]
        exact h.firstFrame
      · rw [heq]
        exact h.source
  | passes hs hsource hp =>
      have hpause := (h.counted.playing hs.1).1
      cases hp with
      | gated wall pause _ hclock =>
          obtain ⟨rfl, rfl⟩ := clock_kept hpause hclock
          exact ⟨h.counted.of_same rfl rfl rfl, h.firstFrame, h.source⟩
      | ended =>
          refine absurd ?_ hseek
          change Event.sought ∈ (s.log ++ [Event.sought]).drop s.log.length
          rw [List.drop_left]
          exact List.mem_singleton.mpr rfl
      | skipped wall pause _ _ hclock =>
          obtain ⟨rfl, rfl⟩ := clock_kept hpause hclock
          exact ⟨h.counted.of_same rfl rfl rfl, h.firstFrame, rfl⟩
      | stopped =>
          have hstop : State.paused = s.state := hstop
          rw [hs.1] at hstop
          cases hstop
  | waits hs hsource hh =>
      obtain ⟨hm, -, -, hff⟩ := hh.facts hsource
      obtain ⟨hstate, hpause, hwall⟩ := hh.clock
      have hplaying := (h.counted.playing hs.1).1
      refine ⟨h.counted.of_same hstate (hwall hplaying) (hpause.trans hplaying.symm),
        hff.trans h.firstFrame, ?_⟩
      exact congrArg Option.isSome hm
  | starts _ _ _ hff =>
      rw [h.firstFrame] at hff
      cases hff
  | @sends _ source' vp t hs hsource hh =>
      obtain ⟨hm, -, -, hff⟩ := hh.facts hsource
      obtain ⟨hstate, hpause, hwall⟩ := hh.clock
      have hplaying := (h.counted.playing hs.1).1
      obtain ⟨tail, -, -, seq, loads, close, aseq, held, n, heq⟩ :=
        deliver_spec env now source' vp (t.emit (.timed vp (t.mediaTicks vp)))
      rw [heq]
      refine ⟨h.counted.of_same hstate (hwall hplaying) (hpause.trans hplaying.symm),
        hff.trans h.firstFrame, ?_⟩
      exact (Option.isSome_map ..).trans (congrArg Option.isSome hm)

/-- The tick that anchors the clock. -/
theorem clocked_anchor {env : Env M} {now : Int} {s s' : Session M} {l : List Event}
    {vp : VideoPacket} {t0 : Int} (h : Ticks env now s s') (hlog : s'.log = s.log ++ l)
    (hl : .anchored vp t0 ∈ l) : Clocked t0 [] s' := by
  obtain ⟨rfl, hs, -, source, source', t, hsource, hh, rfl⟩ := h.of_anchored hlog hl
  obtain ⟨hm, -⟩ := hh.facts hsource
  obtain ⟨hstate, hpause, -⟩ := hh.clock
  obtain ⟨tail, -, -, seq, loads, close, aseq, held, n, heq⟩ :=
    deliver_spec env t0 source' vp ((t.anchorAt t0 source' vp).emit (.timed vp 0))
  rw [heq]
  have hplaying : t.state = .playing := hstate.trans hs.1
  refine ⟨⟨.inl hplaying, (Int.add_zero t0).symm, (fun _ => ⟨hpause, rfl⟩), fun hp => ?_⟩, rfl,
    (Option.isSome_map ..).trans (congrArg Option.isSome hm)⟩
  have hp : t.state = .paused := hp
  rw [hplaying] at hp
  cases hp

/-! ## Runs -/

theorem clocked_step {t0 : Int} {marks : List PauseMark} {t t' : Handled M} {a : SessionAct M}
    (hI : Clocked t0 marks (sessionOf t)) (hC : Uninterrupted t a)
    (h : sessionStep t a = some t') : Clocked t0 (marks ++ pauseMarks t a) (sessionOf t') := by
  cases t with
  | error s => cases h
  | ok s =>
      cases a with
      | command req =>
          obtain rfl := Option.some.inj h
          rw [show pauseMarks (.ok s) (.command req) = [] from rfl, List.append_nil]
          exact ⟨hI.counted.of_same rfl rfl rfl, hI.firstFrame, hI.source⟩
      | handle env =>
          obtain ⟨req, rest, hq, rfl⟩ := handle_cases h
          simp only [Uninterrupted, hq] at hC
          exact clocked_handle hI hq hC.1 hC.2
      | pace env now =>
          obtain rfl := Option.some.inj h
          rw [show pauseMarks (.ok s) (.pace env now) = [] from rfl, List.append_nil]
          exact clocked_pace hI env now hC.1 hC.2

/-- The clock of the session stays. -/
def SameClock (s s' : Session M) : Prop :=
  s'.wallStart = s.wallStart ∧ s'.pauseStart = s.pauseStart

/-- A tick in a pause, a PAUSE in a pause and a PLAY of a session that plays, seek or not. -/
structure Repeatable (s : Session M) : Prop where
  tick : s.state = .paused → ∀ env now, SameClock s (s.pace env now)
  pause : s.state = .paused → ∀ env req, req.method = ascii "PAUSE" →
    SameClock s (sessionOf (s.handleRequest env req))
  play : s.state = .playing → ∀ env req, req.method = ascii "PLAY" →
    SameClock s (sessionOf (s.handleRequest env req))

theorem repeatable_of_counted {t0 : Int} {marks : List PauseMark} {s : Session M}
    (h : Counted t0 marks s) : Repeatable s := by
  refine ⟨fun hstate env now => ?_, fun hstate env req hpause => ?_,
    fun hstate env req hplay => ?_⟩
  · have hidle : ¬ s.Streaming := fun hs => nomatch hstate.symm.trans hs.1
    have hticks := ticks_pace env now s
    generalize s.pace env now = s' at hticks ⊢
    cases hticks with
    | idle => exact notStreaming_counted h now
    | passes hs => exact absurd hs hidle
    | waits hs => exact absurd hs hidle
    | starts hs => exact absurd hs hidle
    | sends hs => exact absurd hs hidle
  · have hrequest : sessionOf (s.handleRequest env req) = s.handlePause env req := by
      unfold handleRequest
      rw [hpause]
      rfl
    have hno : s.state ≠ .playing := by rw [hstate]; exact fun h => nomatch h
    rw [hrequest]
    unfold handlePause
    rw [if_pos hno]
    exact ⟨rfl, rfl⟩
  · rw [handleRequest_play env s hplay]
    have hinit : s.state ≠ .init := by rw [hstate]; exact fun h => nomatch h
    have hpaused : s.state ≠ .paused := by rw [hstate]; exact fun h => nomatch h
    have hseek : ∀ secs adjust, SameClock s (s.seekAndReset secs adjust) := by
      intro secs adjust
      rcases seekAndReset_eq secs adjust s with ⟨-, heq⟩ | ⟨source, -, heq⟩ <;> rw [heq] <;>
        exact ⟨rfl, rfl⟩
    unfold sessionOf handlePlay
    rw [if_neg hinit]
    dsimp only
    rw [if_neg hpaused]
    split
    · exact hseek _ _
    · rw [rtpInfo_eq]
      exact ⟨(hseek _ false).1, (h.playing hstate).1.symm⟩

/-- **Paused time is counted exactly once.** From a tick that anchors the clock at `t0`, in every
    run of ticks and requests without a seek, an end of the source and a stop at the end of the
    range: while the session plays, `wall_start_` is `t0` and the time from each accepted PAUSE
    to the PLAY that resumed it, and `pause_start_` is 0; in a pause `wall_start_` is what it was
    before. Ticks in a pause and repeated requests change neither. -/
theorem paused_time_counted_once (s : Session M) (env : Env M) (now t0 : Int) (vp : VideoPacket)
    (l : List Event) (as : List (SessionAct M)) (t : Handled M)
    (hlog : (s.pace env now).log = s.log ++ l) (hanchor : .anchored vp t0 ∈ l)
    (hC : Lts.Along sessionStep Uninterrupted (.ok (s.pace env now)) as)
    (hrun : Lts.run sessionStep (.ok (s.pace env now)) as = some t) :
    Counted t0 (Lts.outputs sessionStep pauseMarks (.ok (s.pace env now)) as) (sessionOf t) ∧
      Repeatable (sessionOf t) := by
  have hstart : Clocked t0 [] (sessionOf (.ok (s.pace env now))) :=
    clocked_anchor (ticks_pace env now s) hlog hanchor
  have hclocked := Lts.run_outputs (I := fun marks t => Clocked t0 marks (sessionOf t))
    (fun _ _ _ _ hI hC h => clocked_step hI hC h) hstart hC hrun
  exact ⟨hclocked.counted, repeatable_of_counted hclocked.counted⟩

def pauseRequest : RTSPRequest := { playRequest with method := ascii "PAUSE" }

/-- A request at this clock. -/
def exchangeAt (now : Int) (req : RTSPRequest) :
    List (SessionAct (MediaSource PacketList Unit)) :=
  [.command req, .handle { oneFile with now := now }]

/-- Two pauses of 20 and 5, a tick in the first one and its PAUSE repeated. -/
def pausedRun : List (SessionAct (MediaSource PacketList Unit)) :=
  exchangeAt 10 pauseRequest ++ [.pace oneFile 12] ++ exchangeAt 15 pauseRequest ++
    exchangeAt 30 playRequest ++ exchangeAt 40 pauseRequest ++ exchangeAt 45 playRequest

theorem paused_time_counted_once_clip : ∃ s t,
    Lts.run sessionStep (.ok client) playRun = some (.ok s) ∧
      Lts.run sessionStep (.ok (s.pace oneFile 1)) pausedRun = some t ∧
      (sessionOf t).state = .playing ∧ (sessionOf t).wallStart = 1 + (20 + 5) ∧
      (sessionOf t).pauseStart = 0 := by
  have hrun : ((Lts.run sessionStep (.ok client) playRun).bind fun r =>
      (Lts.run sessionStep (.ok ((sessionOf r).pace oneFile 1)) pausedRun).map fun t =>
        Except.isOk r &&
          decide (((sessionOf r).pace oneFile 1).log = (sessionOf r).log ++
              ((sessionOf r).pace oneFile 1).log.drop (sessionOf r).log.length ∧
            .anchored clipFrame 1 ∈
              ((sessionOf r).pace oneFile 1).log.drop (sessionOf r).log.length ∧
            Lts.Along sessionStep Uninterrupted (.ok ((sessionOf r).pace oneFile 1)) pausedRun ∧
            Lts.outputs sessionStep pauseMarks (.ok ((sessionOf r).pace oneFile 1)) pausedRun =
              [.paused 10, .resumed 30, .paused 40, .resumed 45] ∧
            (sessionOf t).state = .playing)) = some true := by
    decide +kernel
  obtain ⟨r, hr, hrest⟩ := Option.bind_eq_some_iff.mp hrun
  obtain ⟨t, ht, hfacts⟩ := Option.map_eq_some_iff.mp hrest
  obtain ⟨hok, hfacts⟩ := Bool.and_eq_true_iff.mp hfacts
  obtain ⟨hlog, hanchor, hC, hmarks, hstate⟩ := of_decide_eq_true hfacts
  cases r with
  | error s => cases hok
  | ok s =>
      obtain ⟨hcounted, -⟩ := paused_time_counted_once s oneFile 1 1 clipFrame _ pausedRun t hlog
        hanchor hC ht
      have hwall := hcounted.wall
      have hmarks : Lts.outputs sessionStep pauseMarks (.ok (s.pace oneFile 1)) pausedRun =
        [.paused 10, .resumed 30, .paused 40, .resumed 45] := hmarks
      rw [hmarks] at hwall
      exact ⟨s, t, hr, ht, hstate, hwall, (hcounted.playing hstate).1⟩

end RtspServer
