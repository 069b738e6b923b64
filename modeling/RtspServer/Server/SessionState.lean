/-
  The state of a session over its runs. Outside of INIT a session should have a source and a
  video transport, so that a PLAY it answers with 200 can be streamed.

  DESCRIBE drops the source before it opens the new one and does not look at the state. When
  the new one cannot be opened, a session that is READY, PLAYING or PAUSED is left without a
  source, and a later PLAY is still answered 200. `ready_iff` shows that this is the only way:
  in every run from a new session the state is sound throughout if and only if no such DESCRIBE
  is handled.
-/
import RtspServer.Server.SessionRuns

namespace RtspServer

open ByteString Decimal

variable {M : Type} [IMediaSource M]

namespace Session

/-- Outside of INIT there is a source and a video transport. -/
def Ready (s : Session M) : Prop :=
  s.state ≠ .init → s.mediaSource.isSome = true ∧ s.transportReady = true

/-- A PLAY handled now would be answered 200 only with a source and a video transport. -/
def PlaysOnlyReady (s : Session M) : Prop :=
  ∀ (env : Env M) (req : RTSPRequest) (r : RTSPResponse),
    dialogue (s.handlePlay env req).log = dialogue s.log ++ [.response r] → r.status = 200 →
      s.mediaSource.isSome = true ∧ s.transportReady = true

/-- The state is sound. -/
def Sound (s : Session M) : Prop := s.Ready ∧ s.PlaysOnlyReady

theorem playsOnlyReady_of_ready {s : Session M} (h : s.Ready) : s.PlaysOnlyReady := by
  intro env req r hlog hr
  by_cases hinit : s.state = .init
  · -- the answer is 455
    rw [handlePlay, if_pos hinit, sendError, sendResponse, dialogue_emit] at hlog
    have heq := List.append_cancel_left hlog
    simp only [Event.isExchange, if_true, List.cons.injEq, Event.response.injEq, and_true] at heq
    rw [← heq] at hr
    exact absurd hr (by decide : (455 : Int) ≠ 200)
  · exact h hinit

theorem sound_iff (s : Session M) : s.Sound ↔ s.Ready :=
  ⟨fun h => h.1, fun h => ⟨h, playsOnlyReady_of_ready h⟩⟩

/-! ## The handlers -/

omit [IMediaSource M] in
theorem Ready.of_same {s s' : Session M} (h : s.Ready) (hstate : s'.state = s.state)
    (hsource : s'.mediaSource.isSome = s.mediaSource.isSome)
    (hready : s'.transportReady = s.transportReady) : s'.Ready := by
  unfold Ready
  rw [hstate, hsource, hready]
  exact h

theorem ready_describe {env : Env M} {req : RTSPRequest} {s : Session M} (h : s.Ready)
    (hopen : s.state ≠ .init → Openable env s.mediaRoot req.url) :
    (s.handleDescribe env req).Ready := by
  obtain ⟨-, hstate, hready, hsource⟩ := handleDescribe_spec env req s
  intro hne
  rw [hstate] at hne
  exact ⟨hsource.mpr (hopen hne), hready.trans (h hne).2⟩

omit [IMediaSource M] in
theorem ready_setup {env : Env M} {req : RTSPRequest} {s : Session M}
    (hm : req.method = ascii "SETUP") (h : s.Ready) :
    (sessionOf (s.handleSetup env req)).Ready := by
  obtain ⟨hthrows, hanswers⟩ := handleSetup_spec env s hm
  by_cases hthrow : SetupThrows req s
  · obtain ⟨s', hres, -, hsource, hstate, hready⟩ := hthrows hthrow
    rw [hres]
    exact h.of_same hstate (congrArg _ hsource) hready
  · obtain ⟨s', hres, -, ⟨hsource, hsets⟩, hguard⟩ := hanswers hthrow
    rw [hres]
    rcases hsets with ⟨hstate, hready⟩ | ⟨hstate, hready⟩
    · exact h.of_same hstate (congrArg _ hsource) hready
    · intro _
      refine ⟨?_, hready⟩
      change s'.mediaSource.isSome = true
      rw [hsource]
      rcases hguard with hsame | hsome
      · -- it was READY before, so it had a source
        exact (h (by rw [← hsame, hstate]; decide)).1
      · exact hsome

theorem ready_play {env : Env M} {req : RTSPRequest} {s : Session M} (h : s.Ready) :
    (s.handlePlay env req).Ready := by
  obtain ⟨-, hsource, hready, hinit⟩ := handlePlay_spec env req s
  intro hne
  rw [hsource, hready]
  exact h fun hs => hne (hinit hs)

omit [IMediaSource M] in
theorem ready_pause {env : Env M} {req : RTSPRequest} {s : Session M} (h : s.Ready) :
    (s.handlePause env req).Ready := by
  obtain ⟨-, hsource, hready, hinit⟩ := handlePause_spec env req s
  intro hne
  rw [hsource, hready]
  exact h fun hs => hne (hinit hs)

/-- A request keeps the state sound unless it is a DESCRIBE that fails outside of INIT. -/
theorem ready_handleRequest {env : Env M} {req : RTSPRequest} {s : Session M} (h : s.Ready)
    (hopen : req.method = ascii "DESCRIBE" → s.state ≠ .init →
      Openable env s.mediaRoot req.url) :
    (sessionOf (s.handleRequest env req)).Ready := by
  unfold handleRequest
  split
  · exact h.of_same rfl rfl rfl
  split
  · next hm => exact ready_describe h (hopen hm)
  split
  · next hm => exact ready_setup hm h
  split
  · exact ready_play h
  split
  · exact ready_pause h
  split
  · exact fun hne => absurd rfl hne
  · exact h.of_same rfl rfl rfl

theorem ready_pace (env : Env M) (now : Int) {s : Session M} (h : s.Ready) :
    (s.pace env now).Ready := by
  rcases pace_cases env now s with ⟨pause, pending, -, heq⟩ | ⟨source, t, hsource, -, hready, -, -⟩
  · rw [heq]
    exact h.of_same rfl rfl rfl
  · intro _
    have hp := paces_pace env now s
    rw [hp.source, hp.ready, hsource]
    exact ⟨rfl, hready⟩

end Session

open Session

/-- The request the step handles, if any, is not a DESCRIBE that fails to open its media while
    the session is not in INIT. -/
def NoFailedReopen : Handled M → SessionAct M → Prop
  | .ok s, .handle env => ∀ req rest, s.cmdQueue = req :: rest →
      req.method = ascii "DESCRIBE" → s.state ≠ .init → Openable env s.mediaRoot req.url
  | _, _ => True

theorem ready_step {t t' : Handled M} {a : SessionAct M} (hI : (sessionOf t).Ready)
    (hC : NoFailedReopen t a) (h : sessionStep t a = some t') : (sessionOf t').Ready := by
  cases t with
  | error s => cases h
  | ok s =>
      cases a with
      | command req =>
          obtain rfl := Option.some.inj h
          exact hI
      | handle env =>
          simp only [sessionStep] at h
          split at h
          · cases h
          · next req rest hq =>
              obtain rfl := Option.some.inj h
              exact ready_handleRequest (hI.of_same rfl rfl rfl) (hC req rest hq)
      | pace env now =>
          obtain rfl := Option.some.inj h
          exact ready_pace env now hI

theorem not_ready_step {t t' : Handled M} {a : SessionAct M} (hC : ¬ NoFailedReopen t a)
    (h : sessionStep t a = some t') : ¬ (sessionOf t').Ready := by
  cases t with
  | error s => cases h
  | ok s =>
      cases a with
      | command req => exact absurd trivial hC
      | pace env now => exact absurd trivial hC
      | handle env =>
          simp only [NoFailedReopen, not_forall] at hC
          obtain ⟨req, rest, hq, hm, hstate, hopen⟩ := hC
          simp only [sessionStep, hq, Option.some.injEq] at h
          rw [handleNext, handleRequest_describe env _ hm] at h
          subst h
          obtain ⟨-, hstate', -, hsource⟩ := handleDescribe_spec env req
            ({ s with cmdQueue := rest }.emit (.request req))
          intro hready
          exact hopen (hsource.mp (hready (by rw [sessionOf, hstate']; exact hstate)).1)

/-- **A session outside of INIT can stream**, over every run of requests and ticks from a new
    session: in every state it reaches the session has a source and a video transport when it is
    READY, PLAYING or PAUSED, and answers PLAY with 200 only then, if and only if no DESCRIBE
    that fails to open its media is handled outside of INIT. -/
theorem ready_iff (clientIp mediaRoot sessionId : Bytes) (ssrc audioSsrc : UInt32)
    (as : List (SessionAct M)) (t : Handled M)
    (h : Lts.run sessionStep (.ok (Session.new clientIp mediaRoot sessionId ssrc audioSsrc)) as =
      some t) :
    Lts.Throughout sessionStep (fun u => (sessionOf u).Sound)
        (.ok (Session.new clientIp mediaRoot sessionId ssrc audioSsrc)) as ↔
      Lts.Along sessionStep NoFailedReopen
        (.ok (Session.new clientIp mediaRoot sessionId ssrc audioSsrc)) as := by
  refine Lts.throughout_iff ?_ ?_ ?_ h
  · intro u a u' hI hC hs
    exact (sound_iff _).mpr (ready_step ((sound_iff _).mp hI) hC hs)
  · intro u a u' _ hC hs hI
    exact not_ready_step hC hs ((sound_iff _).mp hI)
  · exact (sound_iff _).mpr fun hne => absurd rfl hne

/-- DESCRIBE and SETUP of the clip. -/
def setupRun : List (SessionAct (MediaSource PacketList Unit)) :=
  exchange (describeRequest "rtsp://h/a.mp4") ++
    exchange (setupRequest "RTP/AVP/TCP;unicast;interleaved=0-1")

theorem ready_iff_setup : ∃ t, Lts.run sessionStep (.ok client) setupRun = some t ∧
    (sessionOf t).state = .ready ∧
    Lts.Throughout sessionStep (fun u => (sessionOf u).Sound) (.ok client) setupRun := by
  have hend : (Lts.run sessionStep (.ok client) setupRun).map (fun t => (sessionOf t).state) =
      some .ready := by
    decide +kernel
  obtain ⟨t, ht, hstate⟩ := Option.map_eq_some_iff.mp hend
  refine ⟨t, ht, hstate, (ready_iff _ _ _ _ _ setupRun t ht).mpr ?_⟩
  refine ⟨trivial, fun req rest hq hm hne => absurd rfl hne, trivial, ?_, trivial⟩
  intro req rest hq hm
  cases hq
  exact absurd hm (by decide)

/-- Then DESCRIBE of a file that is not there. -/
def redescribeRun : List (SessionAct (MediaSource PacketList Unit)) :=
  setupRun ++ exchange (describeRequest "rtsp://h/b.mp4")

/-- The session is READY without a source. -/
theorem redescribeRun_unsound : ∃ t, Lts.run sessionStep (.ok client) redescribeRun = some t ∧
    ¬ (sessionOf t).Sound := by
  have hend : (Lts.run sessionStep (.ok client) redescribeRun).map
      (fun t => ((sessionOf t).state, (sessionOf t).mediaSource.isSome)) = some (.ready, false) := by
    decide +kernel
  obtain ⟨t, ht, hstate⟩ := Option.map_eq_some_iff.mp hend
  obtain ⟨hready, hsource⟩ := Prod.mk.inj hstate
  refine ⟨t, ht, fun hI => ?_⟩
  have hsome := (hI.1 (by rw [hready]; decide)).1
  rw [hsource] at hsome
  cases hsome

end RtspServer
