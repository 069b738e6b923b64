/-
  A SETUP that is answered with an error. `handleSetup` refuses a request without DESCRIBE or
  without a Transport header before it has written anything. Then it writes `use_tcp_`, before it
  looks for the port of the client, and it replaces the sender of the track, before it knows
  whether the new one can be set up: the answers 461 and 500 leave these writes behind.

  `rejectedSetup_unchanged_iff`: for every request and every state, when an answer of 400 or above
  leaves the state of the tracks as it was.
-/
import RtspServer.Server.TrackTransport

namespace RtspServer

open ByteString Session

variable {M : Type}

/-- What a SETUP is for: the state and the tracks. -/
structure SetupState extends TrackSetup where
  state : State
  deriving DecidableEq

def setupStateOf (s : Session M) : SetupState := { tracksOf s with state := s.state }

/-- The request is refused before `use_tcp_` is written; or the session is not on TCP, and either
    the Transport header has no port, or the sender of the track is one whose set-up failed. -/
def KeepsSetup (req : RTSPRequest) (s : Session M) : Prop :=
  SetupReaches req s → s.useTcp = false ∧
    ((clientPortText (req.header (ascii "transport"))).isSome = true →
      s.senderOf (trackOf req.url) = some ⟨none⟩)

theorem setupStateOf_useTcp (b : Bool) (s : Session M) :
    setupStateOf { s with useTcp := b } = setupStateOf s ↔ s.useTcp = b := by
  constructor
  · intro h
    exact (congrArg (·.useTcp) h).symm
  · rintro rfl
    rfl

theorem setupStateOf_setSender (b : Bool) (track : Track) (sender : UdpSender) (s : Session M) :
    setupStateOf ({ s with useTcp := b }.setSender track sender) = setupStateOf s ↔
      s.useTcp = b ∧ s.senderOf track = some sender := by
  constructor
  · intro h
    cases track with
    | video =>
        exact ⟨(congrArg (·.useTcp) h).symm, (congrArg (·.rtpSender) h).symm⟩
    | audio =>
        exact ⟨(congrArg (·.useTcp) h).symm, (congrArg (·.audioRtpSender) h).symm⟩
  · rintro ⟨huse, hsender⟩
    cases track with
    | video =>
        have hsender : s.rtpSender = some sender := hsender
        simp only [setSender, setupStateOf, tracksOf, huse, hsender]
    | audio =>
        have hsender : s.audioRtpSender = some sender := hsender
        simp only [setSender, setupStateOf, tracksOf, huse, hsender]

/-- The answer of `setupDone` is no error. -/
theorem status_setupDone (env : Env M) (req : RTSPRequest) (track : Track) (transport : Bytes)
    {s t : Session M} {resp : RTSPResponse} (hlog : t.log = s.log)
    (hdone : ((t.setReady track).setupDone env req track transport).log =
      s.log ++ [.response resp]) : resp.status = 200 := by
  have h : ((t.setReady track).setupDone env req track transport).log =
      s.log ++ [.response (RTSPResponse.setup env.timestamp req.cseq t.sessionId transport)] := by
    rw [← hlog]
    cases track <;> rfl
  rw [answer_eq hdone h]
  rfl

/-- **A rejected SETUP changes nothing** of the state of the tracks, for every state and every
    SETUP answered with a status of 400 or above, if and only if it is refused before the choice
    of the transport, or chooses the UDP that the session is on and either names no port or
    replaces a sender that failed. -/
theorem rejectedSetup_unchanged_iff (env : Env M) (req : RTSPRequest) (s s' : Session M)
    (resp : RTSPResponse) (h : s.handleSetup env req = .ok s')
    (hlog : s'.log = s.log ++ [.response resp]) (hstatus : 400 ≤ resp.status) :
    setupStateOf s' = setupStateOf s ↔ KeepsSetup req s := by
  have hends := setupEnds_handleSetup env req s
  rw [h] at hends
  unfold KeepsSetup
  cases hends with
  | refused hreach =>
      constructor
      · exact fun _ hr => absurd hr hreach
      · exact fun _ => rfl
  | noPort hreach _ hport =>
      rw [hport]
      refine (setupStateOf_useTcp false s).trans ?_
      constructor
      · exact fun huse _ => ⟨huse, fun hsome => nomatch hsome⟩
      · exact fun hkeeps => (hkeeps hreach).1
  | noSender hreach _ text v hport =>
      rw [hport]
      have hsame : setupStateOf (({ s with useTcp := false }.setSender (trackOf req.url)
          ⟨none⟩).sendError env req.cseq 500 "Internal Server Error") = setupStateOf s ↔
          s.useTcp = false ∧ s.senderOf (trackOf req.url) = some ⟨none⟩ :=
        setupStateOf_setSender false (trackOf req.url) ⟨none⟩ s
      rw [hsame]
      constructor
      · exact fun hsame _ => ⟨hsame.1, fun _ => hsame.2⟩
      · exact fun hkeeps => ⟨(hkeeps hreach).1, (hkeeps hreach).2 rfl⟩
  | tcp _ _ c =>
      have hok := status_setupDone env req _ _ (log_setChannels _ c { s with useTcp := true }) hlog
      omega
  | udp =>
      have hok := status_setupDone env req _ _ (log_setSender _ _ { s with useTcp := false }) hlog
      omega

/-- A SETUP of the audio without a port. -/
def portlessSetup : RTSPRequest :=
  { setupRequest "RTP/AVP;unicast" with url := ascii "rtsp://h/a.mp4/trackID=1" }

/-- On a session that is not on TCP the answer 461 changes nothing. -/
theorem rejectedSetup_unchanged_portless : ∃ s s' resp,
    Lts.run sessionStep (.ok client) described = some (.ok s) ∧
      s.handleSetup oneFile portlessSetup = .ok s' ∧ s'.log = s.log ++ [.response resp] ∧
      400 ≤ resp.status ∧ setupStateOf s' = setupStateOf s := by
  refine ⟨_, _, _, rfl, rfl, rfl, by decide, ?_⟩
  exact (rejectedSetup_unchanged_iff oneFile portlessSetup _ _ _ rfl rfl (by decide)).mpr
    fun _ => ⟨rfl, fun hport => nomatch hport⟩

/-- On a session whose video was set up over TCP it takes `use_tcp_` away. -/
theorem rejectedSetup_leaves_tcp : ∃ s s' resp,
    Lts.run sessionStep (.ok client) (described ++ exchange videoSetup) = some (.ok s) ∧
      s.handleSetup oneFile portlessSetup = .ok s' ∧ s'.log = s.log ++ [.response resp] ∧
      400 ≤ resp.status ∧ setupStateOf s' ≠ setupStateOf s := by
  refine ⟨_, _, _, rfl, rfl, rfl, by decide, ?_⟩
  decide +kernel

end RtspServer
