/-
  The transport of a track. Each track has its channels and its UDP sender, but `use_tcp_` is
  one flag of the session. `handleSetup` writes it as soon as it has read the Transport header,
  before the rest of the request is checked, so that a SETUP of one track moves the other one
  too, also when it is answered with an error: the packets of a track that was set up over TCP
  are then given to a UDP sender it does not have.

  `track_over_announced`: after a SETUP answered 200 the packets of the track go the way the
  answer says, up to the next SETUP of the track, in every run in which the SETUPs of the other
  track ask for the same kind of transport.
-/
import RtspServer.Server.PacerEmits
import RtspServer.Server.SessionMoves

namespace RtspServer

open ByteString Decimal Session IMediaSource

variable {M : Type}

/-- The sender of a track. -/
def Session.senderOf (track : Track) (s : Session M) : Option UdpSender :=
  match track with
  | .video => s.rtpSender
  | .audio => s.audioRtpSender

/-- What decides where a packet goes. -/
structure Transport where
  useTcp : Bool
  rtpSender : Option UdpSender
  audioRtpSender : Option UdpSender

def transportOf (s : Session M) : Transport :=
  { useTcp := s.useTcp, rtpSender := s.rtpSender, audioRtpSender := s.audioRtpSender }

/-- What SETUP writes for the tracks. -/
structure TrackSetup where
  useTcp : Bool
  rtpChannel : Int
  rtcpChannel : Int
  audioRtpChannel : Int
  audioRtcpChannel : Int
  transportReady : Bool
  audioTransportReady : Bool
  rtpSender : Option UdpSender
  audioRtpSender : Option UdpSender
  deriving DecidableEq

def tracksOf (s : Session M) : TrackSetup :=
  { useTcp := s.useTcp, rtpChannel := s.rtpChannel, rtcpChannel := s.rtcpChannel
    audioRtpChannel := s.audioRtpChannel, audioRtcpChannel := s.audioRtcpChannel
    transportReady := s.transportReady, audioTransportReady := s.audioTransportReady
    rtpSender := s.rtpSender, audioRtpSender := s.audioRtpSender }

/-- The Transport header of an answer. -/
def RTSPResponse.transport (r : RTSPResponse) : Bytes :=
  (r.headers.lookup (ascii "Transport")).getD []

/-- The Transport header of an answer names interleaving as its protocol. -/
def RTSPResponse.announcesTcp (r : RTSPResponse) : Bool :=
  ((r.headers.lookup (ascii "Transport")).getD []).takeWhile (· ≠ 59) = ascii "RTP/AVP/TCP"

/-- The packet went over this kind of transport, in a step that ends in `s`: as an interleaved
    frame, or as a datagram through the sender of its track. A packet for TCP is dropped only
    above the watermark, where the session is marked for closing. -/
def Event.Over (tcp : Bool) (s : Session M) : Event → Prop
  | .interleaved _ _ => tcp = true
  | .datagram track dest _ => tcp = false ∧ s.senderOf track = some ⟨some dest⟩
  | .dropped _ _ => tcp = true ∧ s.closeAfterWrite = true
  | _ => True

/-- The session sends the packets of the track over this kind of transport. -/
def Session.SendsOver (track : Track) (tcp : Bool) (s : Session M) : Prop :=
  s.useTcp = tcp ∧ (tcp = false → ∃ dest, s.senderOf track = some ⟨some dest⟩)

theorem senderOf_eq {s s' : Session M} (h : transportOf s' = transportOf s) (track : Track) :
    s'.senderOf track = s.senderOf track := by
  cases track with
  | video => exact congrArg Transport.rtpSender h
  | audio => exact congrArg Transport.audioRtpSender h

theorem Session.SendsOver.of_same {track : Track} {tcp : Bool} {s s' : Session M}
    (h : s.SendsOver track tcp) (heq : transportOf s' = transportOf s) :
    s'.SendsOver track tcp := by
  refine ⟨(congrArg Transport.useTcp heq).trans h.1, fun htcp => ?_⟩
  rw [senderOf_eq heq]
  exact h.2 htcp

/-! ## The packets of a tick -/

/-- The transport stays, and the packets of the track go over it. -/
structure Conveys (track : Track) (tcp : Bool) (s s' : Session M) : Prop where
  transport : transportOf s' = transportOf s
  close : s.closeAfterWrite = true → s'.closeAfterWrite = true
  log : ∃ l, s'.log = s.log ++ l ∧
    (s.SendsOver track tcp → ∀ e ∈ l, e.packetTrack = some track → e.Over tcp s')

theorem Event.Over.later {tcp : Bool} {s s' : Session M} {e : Event} (h : e.Over tcp s)
    (heq : transportOf s' = transportOf s)
    (hclose : s.closeAfterWrite = true → s'.closeAfterWrite = true) : e.Over tcp s' := by
  cases e with
  | datagram track dest rtp => exact ⟨h.1, (senderOf_eq heq track).trans h.2⟩
  | dropped track rtp => exact ⟨h.1, hclose h.2⟩
  | _ => exact h

theorem Conveys.refl (track : Track) (tcp : Bool) (s : Session M) : Conveys track tcp s s :=
  ⟨rfl, id, [], (List.append_nil _).symm, fun _ _ he => nomatch he⟩

theorem Conveys.trans {track : Track} {tcp : Bool} {s t u : Session M}
    (h : Conveys track tcp s t) (h' : Conveys track tcp t u) : Conveys track tcp s u := by
  obtain ⟨l, hl, hover⟩ := h.log
  obtain ⟨l', hl', hover'⟩ := h'.log
  refine ⟨h'.transport.trans h.transport, fun hc => h'.close (h.close hc), l ++ l',
    by rw [hl', hl, List.append_assoc], fun hs e he htrack => ?_⟩
  rcases List.mem_append.mp he with he | he
  · exact (hover hs e he htrack).later h'.transport h'.close
  · exact hover' (hs.of_same h.transport) e he htrack

theorem packetTrack_of_isNote {e : Event} (h : e.isNote = true) : e.packetTrack = none := by
  cases e <;> first | rfl | cases h

/-- One packet. -/
theorem Conveys.packet {track : Track} {tcp : Bool} {s s' : Session M} (e : Event)
    (heq : transportOf s' = transportOf s)
    (hclose : s.closeAfterWrite = true → s'.closeAfterWrite = true)
    (hlog : s'.log = s.log ++ [e])
    (h : s.SendsOver track tcp → e.packetTrack = some track → e.Over tcp s') :
    Conveys track tcp s s' := by
  refine ⟨heq, hclose, [e], hlog, fun hs e' he' htrack => ?_⟩
  rw [List.mem_singleton.mp he'] at htrack ⊢
  exact h hs htrack

/-- `pushTCPFrame` or `RTPSender::send`, as `use_tcp_` says. -/
theorem conveys_send (env : Env M) (track track' : Track) (tcp : Bool) (channel : Int)
    (rtp : Bytes) (s : Session M) :
    Conveys track tcp s (if s.useTcp then s.pushTCPFrame env track' channel rtp
      else s.sendDatagram track' (s.senderOf track') rtp) := by
  split
  · next htcp =>
      unfold pushTCPFrame
      split
      · exact .packet (.dropped track' rtp) rfl (fun _ => rfl) rfl
          fun hs _ => ⟨hs.1.symm.trans htcp, rfl⟩
      · exact .packet (.interleaved track' _) rfl id rfl fun hs _ => hs.1.symm.trans htcp
  · next htcp =>
      have hudp : s.SendsOver track tcp → tcp = false :=
        fun hs => hs.1.symm.trans (Bool.of_not_eq_true htcp)
      unfold sendDatagram
      split
      · next dest hsender => exact .packet _ rfl id rfl fun hs _ => ⟨hudp hs, hsender⟩
      · next hnone =>
          refine .packet _ rfl id rfl fun hs htrack => ?_
          obtain ⟨dest, hdest⟩ := hs.2 (hudp hs)
          cases htrack
          exact absurd hdest (hnone dest)

theorem conveys_sendVideoRTP (env : Env M) (track : Track) (tcp : Bool) (payload : Bytes)
    (ts : UInt32) (marker : Bool) (s : Session M) :
    Conveys track tcp s (s.sendVideoRTP env payload ts marker) := by
  have hseq : Conveys track tcp s { s with rtpSeq := s.rtpSeq + 1 } :=
    ⟨rfl, id, [], (List.append_nil _).symm, fun _ _ he => nomatch he⟩
  exact hseq.trans (conveys_send env track .video tcp _ _ _)

theorem conveys_sendOneAudio (env : Env M) (track : Track) (tcp : Bool) (ap : AudioPacket)
    (s : Session M) : Conveys track tcp s (s.sendOneAudio env ap) := by
  have hseq : Conveys track tcp s { s with audioRtpSeq := s.audioRtpSeq + 1 } :=
    ⟨rfl, id, [], (List.append_nil _).symm, fun _ _ he => nomatch he⟩
  unfold sendOneAudio
  split
  · exact .refl track tcp s
  · exact hseq.trans (conveys_send env track .audio tcp _ _ _)

theorem Emits.conveys [IMediaSource M] {env : Env M} {s s' : Session M} (h : Emits env s s')
    (track : Track) (tcp : Bool) : Conveys track tcp s s' := by
  induction h with
  | refl => exact .refl track tcp s
  | @notes t u _ hn ih =>
      obtain ⟨l, hlog, hnotes⟩ := hn.log
      have heq : transportOf u = transportOf t := by
        have h1 : u.useTcp = t.useTcp := congrArg Wire.useTcp hn.wire
        have h2 : u.rtpSender = t.rtpSender := congrArg Wire.rtpSender hn.wire
        have h3 : u.audioRtpSender = t.audioRtpSender := congrArg Wire.audioRtpSender hn.wire
        rw [transportOf, h1, h2, h3]
        rfl
      refine ih.trans ⟨heq, fun hc => (congrArg Wire.closeAfterWrite hn.wire).trans hc, l, hlog, ?_⟩
      intro _ e he htrack
      rw [packetTrack_of_isNote (hnotes e he)] at htrack
      cases htrack
  | video _ payload ts marker _ ih => exact ih.trans (conveys_sendVideoRTP env track tcp _ _ _ _)
  | audio _ ap _ ih => exact ih.trans (conveys_sendOneAudio env track tcp ap _)

/-! ## Requests -/

/-- The SETUP gets as far as the choice of the transport. -/
def SetupReaches (req : RTSPRequest) (s : Session M) : Prop :=
  s.describeDone = true ∧ s.mediaSource.isSome = true ∧ req.header (ascii "transport") ≠ []

/-- The ways a SETUP ends, in the order of the source. -/
inductive SetupEnds (env : Env M) (req : RTSPRequest) (s : Session M) : Handled M → Prop where
  /-- 455 or 400 -/
  | refused (h : ¬ SetupReaches req s) (code : Int) (reason : String)
      (hcode : code = 455 ∨ code = 400) :
      SetupEnds env req s (.ok (s.sendError env req.cseq code reason))
  | badChannels (h : SetupReaches req s) (htcp : wantsTcp (req.header (ascii "transport")) = true)
      (c : Int × Int) (hparse : parseChannels (req.header (ascii "transport"))
        (s.channels (trackOf req.url)) = .error c) :
      SetupEnds env req s (.error ({ s with useTcp := true }.setChannels (trackOf req.url) c))
  | tcp (h : SetupReaches req s) (htcp : wantsTcp (req.header (ascii "transport")) = true)
      (c : Int × Int) (hparse : parseChannels (req.header (ascii "transport"))
        (s.channels (trackOf req.url)) = .ok c) :
      SetupEnds env req s (.ok
        ((({ s with useTcp := true }.setChannels (trackOf req.url) c).setReady
          (trackOf req.url)).setupDone env req (trackOf req.url) (tcpTransport c)))
  /-- 461 -/
  | noPort (h : SetupReaches req s) (hudp : wantsTcp (req.header (ascii "transport")) = false)
      (hport : clientPortText (req.header (ascii "transport")) = none) :
      SetupEnds env req s
        (.ok ({ s with useTcp := false }.sendError env req.cseq 461 "Unsupported Transport"))
  | badPort (h : SetupReaches req s) (hudp : wantsTcp (req.header (ascii "transport")) = false)
      (text : Bytes) (hport : clientPortText (req.header (ascii "transport")) = some text)
      (hstoi : stoi text = none) : SetupEnds env req s (.error { s with useTcp := false })
  /-- 500 -/
  | noSender (h : SetupReaches req s) (hudp : wantsTcp (req.header (ascii "transport")) = false)
      (text : Bytes) (v : Int)
      (hport : clientPortText (req.header (ascii "transport")) = some text)
      (hstoi : stoi text = some v) (hset : env.setupUDP s.clientIp (toPort v) = none) :
      SetupEnds env req s (.ok (({ s with useTcp := false }.setSender (trackOf req.url)
        ⟨none⟩).sendError env req.cseq 500 "Internal Server Error"))
  | udp (h : SetupReaches req s) (hudp : wantsTcp (req.header (ascii "transport")) = false)
      (text : Bytes) (v : Int) (srvPort : UInt16)
      (hport : clientPortText (req.header (ascii "transport")) = some text)
      (hstoi : stoi text = some v) (hset : env.setupUDP s.clientIp (toPort v) = some srvPort) :
      SetupEnds env req s (.ok
        ((({ s with useTcp := false }.setSender (trackOf req.url)
          ⟨some (s.clientIp, toPort v)⟩).setReady (trackOf req.url)).setupDone env req
            (trackOf req.url) (udpTransport (toPort v) srvPort)))

theorem setupEnds_setupUdp (env : Env M) {req : RTSPRequest} {s : Session M}
    (h : SetupReaches req s) (hudp : wantsTcp (req.header (ascii "transport")) = false) :
    SetupEnds env req s
      (setupUdp env req (req.header (ascii "transport")) (trackOf req.url) s) := by
  unfold setupUdp
  dsimp only
  split
  · next hport => exact .noPort h hudp hport
  · next text hport =>
      split
      · next hstoi => exact .badPort h hudp text hport hstoi
      · next v hstoi =>
          split
          · next hset => exact .noSender h hudp text v hport hstoi hset
          · next srvPort hset => exact .udp h hudp text v srvPort hport hstoi hset

theorem setupEnds_handleSetup (env : Env M) (req : RTSPRequest) (s : Session M) :
    SetupEnds env req s (s.handleSetup env req) := by
  unfold handleSetup
  split
  · next hguard =>
      refine .refused (fun hreach => ?_) 455 _ (.inl rfl)
      rcases hguard with hdone | hsource
      · exact Bool.noConfusion (hdone.symm.trans hreach.1)
      · rw [← Option.not_isSome, hreach.2.1] at hsource
        cases hsource
  · next hguard =>
      dsimp only
      split
      · next hhdr => exact .refused (fun hreach => hreach.2.2 hhdr) 400 _ (.inr rfl)
      · next hhdr =>
          have hreach : SetupReaches req s := by
            have hguard' : s.describeDone = true ∧ s.mediaSource.isSome = true := by
              simpa [Option.isSome_iff_ne_none] using hguard
            exact ⟨hguard'.1, hguard'.2, hhdr⟩
          split
          · next htcp =>
              unfold setupTcp
              dsimp only
              split
              · next c hparse => exact .badChannels hreach htcp c hparse
              · next c hparse => exact .tcp hreach htcp c hparse
          · next htcp => exact setupEnds_setupUdp env hreach (Bool.of_not_eq_true htcp)

theorem transportOf_setChannels (track : Track) (c : Int × Int) (s : Session M) :
    transportOf (s.setChannels track c) = transportOf s := by
  cases track <;> rfl

theorem senderOf_setSender (track : Track) (sender : UdpSender) (s : Session M) :
    (s.setSender track sender).senderOf track = some sender := by
  cases track <;> rfl

theorem senderOf_setSender_of_ne {track track' : Track} (h : track' ≠ track) (sender : UdpSender)
    (s : Session M) : (s.setSender track' sender).senderOf track = s.senderOf track := by
  cases track <;> cases track' <;> first | rfl | exact absurd rfl h

theorem useTcp_setSender (track : Track) (sender : UdpSender) (s : Session M) :
    (s.setSender track sender).useTcp = s.useTcp := by
  cases track <;> rfl

/-- The answer of a handler that answers once. -/
theorem answer_eq {s s' : Session M} {resp resp' : RTSPResponse}
    (h : s'.log = s.log ++ [.response resp]) (h' : s'.log = s.log ++ [.response resp']) :
    resp = resp' := by
  have hlog := List.append_cancel_left (h.symm.trans h')
  simpa using hlog

theorem transport_setup (date : Bytes) (cseq : Int) (id transport : Bytes) :
    (RTSPResponse.setup date cseq id transport).transport = transport := by
  have hlookup : (RTSPResponse.setup date cseq id transport).headers.lookup (ascii "Transport") =
      some transport := by
    unfold RTSPResponse.setup RTSPResponse.set
    rw [RTSPResponse.lookup_setHeader_of_ne (by decide),
      RTSPResponse.lookup_setHeader_of_ne (by decide), RTSPResponse.lookup_setHeader]
  rw [RTSPResponse.transport, hlookup]
  rfl

theorem announcesTcp_setup (date : Bytes) (cseq : Int) (id transport : Bytes) :
    (RTSPResponse.setup date cseq id transport).announcesTcp =
      decide (transport.takeWhile (· ≠ 59) = ascii "RTP/AVP/TCP") := by
  have h := transport_setup date cseq id transport
  rw [RTSPResponse.transport] at h
  rw [RTSPResponse.announcesTcp, h]

theorem takeWhile_tcpTransport (c : Int × Int) :
    (tcpTransport c).takeWhile (· ≠ 59) = ascii "RTP/AVP/TCP" := by
  rfl

theorem takeWhile_udpTransport (clientPort serverPort : UInt16) :
    (udpTransport clientPort serverPort).takeWhile (· ≠ 59) = ascii "RTP/AVP" := by
  rfl

/-- What a SETUP does to the transport: nothing, or it chooses the kind that its Transport header
    asks for, and an answer 200 announces it. -/
inductive Chooses (req : RTSPRequest) (s : Session M) : Session M → Prop where
  /-- refused before the choice -/
  | refused {s' : Session M} (h : ¬ SetupReaches req s) (heq : transportOf s' = transportOf s)
      (hlog : ∃ resp, s'.log = s.log ++ [.response resp] ∧ resp.status ≠ 200) :
      Chooses req s s'
  /-- refused, or an exception, after it -/
  | failed {s' : Session M} (h : SetupReaches req s)
      (huse : s'.useTcp = wantsTcp (req.header (ascii "transport")))
      (hsender : ∀ track, trackOf req.url ≠ track → s'.senderOf track = s.senderOf track)
      (hlog : s'.log = s.log ∨
        ∃ resp, s'.log = s.log ++ [.response resp] ∧ resp.status ≠ 200) : Chooses req s s'
  | accepted {s' : Session M} (h : SetupReaches req s) (resp : RTSPResponse)
      (huse : s'.useTcp = wantsTcp (req.header (ascii "transport")))
      (hsender : ∀ track, trackOf req.url ≠ track → s'.senderOf track = s.senderOf track)
      (hlog : s'.log = s.log ++ [.response resp]) (htcp : resp.announcesTcp = s'.useTcp)
      (hdest : s'.useTcp = false → ∃ dest, s'.senderOf (trackOf req.url) = some ⟨some dest⟩) :
      Chooses req s s'

theorem log_setSender (track : Track) (sender : UdpSender) (s : Session M) :
    (s.setSender track sender).log = s.log := by
  cases track <;> rfl

theorem log_setChannels (track : Track) (c : Int × Int) (s : Session M) :
    (s.setChannels track c).log = s.log := by
  cases track <;> rfl

/-- The end of a SETUP that chose its transport: what it announces is what it chose. -/
theorem chooses_done (env : Env M) {req : RTSPRequest} {s t : Session M} (transport : Bytes)
    (h : SetupReaches req s) (huse : t.useTcp = wantsTcp (req.header (ascii "transport")))
    (hsender : ∀ track, trackOf req.url ≠ track → t.senderOf track = s.senderOf track)
    (hlog : t.log = s.log)
    (htcp : decide (transport.takeWhile (· ≠ 59) = ascii "RTP/AVP/TCP") = t.useTcp)
    (hdest : t.useTcp = false → ∃ dest, t.senderOf (trackOf req.url) = some ⟨some dest⟩) :
    Chooses req s ((t.setReady (trackOf req.url)).setupDone env req (trackOf req.url) transport) := by
  have heq : transportOf ((t.setReady (trackOf req.url)).setupDone env req (trackOf req.url)
      transport) = transportOf t := by
    cases trackOf req.url <;> rfl
  have hdone : ((t.setReady (trackOf req.url)).setupDone env req (trackOf req.url) transport).log =
      s.log ++ [.response (RTSPResponse.setup env.timestamp req.cseq t.sessionId transport)] := by
    rw [← hlog]
    cases trackOf req.url <;> rfl
  have huse' := congrArg Transport.useTcp heq
  refine .accepted h _ (huse'.trans huse) (fun track hne => ?_) hdone ?_ fun hudp => ?_
  · exact (senderOf_eq heq track).trans (hsender track hne)
  · rw [announcesTcp_setup, htcp]
    exact huse'.symm
  · obtain ⟨dest, hdest⟩ := hdest (huse'.symm.trans hudp)
    exact ⟨dest, (senderOf_eq heq _).trans hdest⟩

theorem chooses_handleSetup (env : Env M) (req : RTSPRequest) (s : Session M) :
    Chooses req s (sessionOf (s.handleSetup env req)) := by
  have hends := setupEnds_handleSetup env req s
  have hchannels : ∀ c, transportOf ({ s with useTcp := true }.setChannels (trackOf req.url) c) =
      transportOf { s with useTcp := true } := fun c => transportOf_setChannels _ c _
  have hsend : ∀ sender, ({ s with useTcp := false }.setSender (trackOf req.url) sender).useTcp =
      false := fun sender => useTcp_setSender _ sender _
  have hother : ∀ sender track, trackOf req.url ≠ track →
      ({ s with useTcp := false }.setSender (trackOf req.url) sender).senderOf track =
        s.senderOf track :=
    fun sender track hne => senderOf_setSender_of_ne hne sender { s with useTcp := false }
  generalize s.handleSetup env req = t at hends ⊢
  cases hends with
  | refused h code reason hcode =>
      refine .refused h rfl ⟨_, rfl, ?_⟩
      rcases hcode with rfl | rfl
      · exact (by decide : (455 : Int) ≠ 200)
      · exact (by decide : (400 : Int) ≠ 200)
  | badChannels h htcp c _ =>
      exact .failed h ((congrArg Transport.useTcp (hchannels c)).trans htcp.symm)
        (fun track _ => senderOf_eq (hchannels c) track) (.inl (log_setChannels _ c _))
  | tcp h htcp c _ =>
      have huse := congrArg Transport.useTcp (hchannels c)
      refine chooses_done env _ h (huse.trans htcp.symm)
        (fun track _ => senderOf_eq (hchannels c) track) (log_setChannels _ c _) ?_ fun hudp => ?_
      · rw [takeWhile_tcpTransport]
        exact huse.symm
      · exact Bool.noConfusion (huse.symm.trans hudp)
  | noPort h hudp _ =>
      exact .failed h hudp.symm (fun _ _ => by rfl)
        (.inr ⟨_, rfl, (by decide : (461 : Int) ≠ 200)⟩)
  | badPort h hudp => exact .failed h hudp.symm (fun _ _ => by rfl) (.inl rfl)
  | noSender h hudp =>
      exact .failed h ((hsend ⟨none⟩).trans hudp.symm) (hother ⟨none⟩)
        (.inr ⟨_, congrArg (· ++ _) (log_setSender _ _ _), (by decide : (500 : Int) ≠ 200)⟩)
  | udp h hudp =>
      refine chooses_done env _ h ((hsend _).trans hudp.symm) (hother _) (log_setSender _ _ _) ?_
        fun _ => ⟨_, senderOf_setSender _ _ _⟩
      rw [takeWhile_udpTransport, hsend]
      decide

theorem tracksOf_openMedia (env : Env M) (url : Bytes) (cseq : Int) (s : Session M) :
    tracksOf (openMedia env url cseq s).2 = tracksOf s := by
  unfold openMedia
  dsimp only
  repeat' split
  all_goals rfl

variable [IMediaSource M]

theorem tracksOf_handleDescribe (env : Env M) (req : RTSPRequest) (s : Session M) :
    tracksOf (s.handleDescribe env req) = tracksOf s := by
  have hopen := tracksOf_openMedia env req.url req.cseq { s with mediaSource := none }
  unfold handleDescribe
  split
  · next hres =>
      rw [hres] at hopen
      exact hopen
  · next hres =>
      rw [hres] at hopen
      split <;> exact hopen

theorem tracksOf_seekAndReset (secs : Rat) (adjust : Bool) (s : Session M) :
    tracksOf (s.seekAndReset secs adjust) = tracksOf s := by
  rcases seekAndReset_eq secs adjust s with ⟨-, heq⟩ | ⟨source, -, heq⟩
  · rw [heq]
  · rw [heq]
    rfl

theorem tracksOf_handlePlay (env : Env M) (req : RTSPRequest) (s : Session M) :
    tracksOf (s.handlePlay env req) = tracksOf s := by
  unfold handlePlay
  dsimp only
  repeat' split
  · rfl
  · change tracksOf (s.resumePlay env) = _
    unfold resumePlay
    split <;> rfl
  · exact tracksOf_seekAndReset s.lastKeyframeNpt true s
  · change tracksOf ((s.freshPlay _ _).rtpInfo req.url).2 = _
    rw [rtpInfo_eq]
    exact tracksOf_seekAndReset _ false s

/-- No other request touches the tracks. -/
theorem tracksOf_handleRequest (env : Env M) {req : RTSPRequest} (s : Session M)
    (hsetup : req.method ≠ ascii "SETUP") :
    tracksOf (sessionOf (s.handleRequest env req)) = tracksOf s := by
  unfold handleRequest
  rw [if_neg hsetup]
  repeat' split
  · rfl
  · exact tracksOf_handleDescribe env req s
  · exact tracksOf_handlePlay env req s
  · change tracksOf (s.handlePause env req) = _
    unfold handlePause
    split <;> rfl
  · rfl
  · rfl

omit [IMediaSource M] in
theorem transportOf_eq {s s' : Session M} (h : tracksOf s' = tracksOf s) :
    transportOf s' = transportOf s :=
  congrArg (fun t : TrackSetup => Transport.mk t.useTcp t.rtpSender t.audioRtpSender) h

/-! ## Runs -/

/-- No SETUP of the track is handled. -/
def OtherTrack (track : Track) : Handled M → SessionAct M → Prop :=
  OnRequest fun req _ => req.method = ascii "SETUP" → trackOf req.url ≠ track

/-- A SETUP that gets as far as the choice of the transport asks for this kind. -/
def SameKind (tcp : Bool) : Handled M → SessionAct M → Prop :=
  OnRequest fun req s => req.method = ascii "SETUP" → SetupReaches req s →
    wantsTcp (req.header (ascii "transport")) = tcp

instance (req : RTSPRequest) (s : Session M) : Decidable (SetupReaches req s) :=
  inferInstanceAs (Decidable (_ ∧ _))

instance (track : Track) (t : Handled M) (a : SessionAct M) : Decidable (OtherTrack track t a) :=
  inferInstanceAs (Decidable (OnRequest _ t a))

instance (tcp : Bool) (t : Handled M) (a : SessionAct M) : Decidable (SameKind tcp t a) :=
  inferInstanceAs (Decidable (OnRequest _ t a))

instance (tcp : Bool) (s : Session M) : ∀ e : Event, Decidable (e.Over tcp s)
  | .interleaved _ _ => inferInstanceAs (Decidable (tcp = true))
  | .datagram track dest _ =>
      inferInstanceAs (Decidable (tcp = false ∧ s.senderOf track = some ⟨some dest⟩))
  | .dropped _ _ => inferInstanceAs (Decidable (tcp = true ∧ s.closeAfterWrite = true))
  | .request _ | .response _ | .sought | .anchored _ _ | .timed _ _ | .sending _ => isTrue trivial

/-- A SETUP answered 200 sets the track up as the answer says. -/
theorem sendsOver_of_setup {s : Session M} {env : Env M} {req : RTSPRequest}
    {rest : List RTSPRequest} {resp : RTSPResponse} {u : Handled M}
    (hq : s.cmdQueue = req :: rest) (hsetup : req.method = ascii "SETUP")
    (hu : sessionStep (.ok s) (.handle env) = some u)
    (hanswer : (sessionOf u).log = s.log ++ [.request req, .response resp])
    (hok : resp.status = 200) :
    (sessionOf u).SendsOver (trackOf req.url) resp.announcesTcp := by
  have hu' : u = s.handleNext env req rest := by
    simp only [sessionStep, hq, Option.some.injEq] at hu
    exact hu.symm
  have hchooses := chooses_handleSetup env req ({ s with cmdQueue := rest }.emit (.request req))
  rw [← handleRequest_setup env _ hsetup] at hchooses
  change Chooses req _ (sessionOf (s.handleNext env req rest)) at hchooses
  rw [← hu'] at hchooses
  have hlog : (sessionOf u).log =
      ({ s with cmdQueue := rest }.emit (.request req)).log ++ [.response resp] :=
    hanswer.trans (List.append_assoc s.log [.request req] [.response resp]).symm
  generalize sessionOf u = s' at hchooses hlog ⊢
  -- a refusal has another status, and an exception gives no answer
  cases hchooses with
  | refused _ _ h =>
      obtain ⟨resp', h, hne⟩ := h
      exact absurd hok (answer_eq h hlog ▸ hne)
  | failed _ _ _ h =>
      rcases h with h | ⟨resp', h, hne⟩
      · rw [h, List.self_eq_append_right] at hlog
        cases hlog
      · exact absurd hok (answer_eq h hlog ▸ hne)
  | accepted _ resp' huse _ h htcp hdest =>
      obtain rfl := answer_eq h hlog
      exact ⟨htcp.symm, fun hudp => hdest (htcp.symm.trans hudp)⟩

theorem sendsOver_step {track : Track} {tcp : Bool} {t t' : Handled M} {a : SessionAct M}
    (hI : (sessionOf t).SendsOver track tcp) (hC : OtherTrack track t a ∧ SameKind tcp t a)
    (h : sessionStep t a = some t') : (sessionOf t').SendsOver track tcp := by
  cases t with
  | error s => cases h
  | ok s =>
      cases a with
      | command req =>
          obtain rfl := Option.some.inj h
          exact hI
      | handle env =>
          obtain ⟨req, rest, hq, rfl⟩ := handle_cases h
          by_cases hsetup : req.method = ascii "SETUP"
          · have hhead : req ∈ s.cmdQueue.head? := by rw [hq]; rfl
            have hne := hC.1 req hhead hsetup
            have hkind := hC.2 req hhead hsetup
            have hres : ∀ s : Session M, s.handleRequest env req = s.handleSetup env req :=
              fun s => handleRequest_setup env s hsetup
            unfold handleNext
            rw [hres]
            have hchooses := chooses_handleSetup env req
              ({ s with cmdQueue := rest }.emit (.request req))
            generalize sessionOf (({ s with cmdQueue := rest }.emit (.request req)).handleSetup
              env req) = s' at hchooses ⊢
            cases hchooses with
            | refused _ heq => exact hI.of_same heq
            | failed hr huse hsender =>
                exact ⟨huse.trans (hkind hr), fun hudp => (hsender track hne).symm ▸ hI.2 hudp⟩
            | accepted hr _ huse hsender =>
                exact ⟨huse.trans (hkind hr), fun hudp => (hsender track hne).symm ▸ hI.2 hudp⟩
          · exact hI.of_same (transportOf_eq (tracksOf_handleRequest env _ hsetup))
      | pace env now =>
          obtain rfl := Option.some.inj h
          exact hI.of_same ((emits_pace env now s).1.conveys track tcp).transport

/-- Only ticks send packets, and they send them over the transport of the session. -/
theorem over_step {track : Track} {tcp : Bool} {t t' : Handled M} {a : SessionAct M}
    {l : List Event} (hI : (sessionOf t).SendsOver track tcp) (h : sessionStep t a = some t')
    (hlog : (sessionOf t').log = (sessionOf t).log ++ l) :
    ∀ e ∈ l, e.packetTrack = some track → e.Over tcp (sessionOf t') := by
  intro e he htrack
  cases t with
  | error s => cases h
  | ok s =>
      cases a with
      | command req =>
          obtain rfl := Option.some.inj h
          rw [List.self_eq_append_right.mp hlog] at he
          cases he
      | handle env =>
          obtain ⟨req, rest, -, rfl⟩ := handle_cases h
          have hnone := handleNext_noPackets env req rest hlog e he
          rw [hnone] at htrack
          cases htrack
      | pace env now =>
          obtain rfl := Option.some.inj h
          obtain ⟨l', hl', hover⟩ := ((emits_pace env now s).1.conveys track tcp).log
          obtain rfl := List.append_cancel_left (hlog.symm.trans hl')
          exact hover hI e he htrack

/-- **The packets of a track go over the transport that was announced**, over every run from any
    state in which a SETUP of the track is answered 200: up to the next SETUP of the track, every
    packet of the track goes over TCP, or through the UDP sender of the track, as the Transport
    header of the answer says, when every SETUP of the other track that gets as far as the choice
    of the transport asks for the same kind. -/
theorem track_over_announced (s : Session M) (env : Env M) (req : RTSPRequest)
    (rest : List RTSPRequest) (resp : RTSPResponse) (u v w : Handled M)
    (as : List (SessionAct M)) (a : SessionAct M) (l : List Event)
    (hq : s.cmdQueue = req :: rest) (hsetup : req.method = ascii "SETUP")
    (hu : sessionStep (.ok s) (.handle env) = some u)
    (hanswer : (sessionOf u).log = s.log ++ [.request req, .response resp])
    (hok : resp.status = 200) (hv : Lts.run sessionStep u as = some v)
    (hw : sessionStep v a = some w) (hlog : (sessionOf w).log = (sessionOf v).log ++ l)
    (hnext : Lts.Along sessionStep (OtherTrack (trackOf req.url)) u (as ++ [a]))
    (hkind : Lts.Along sessionStep (SameKind resp.announcesTcp) u (as ++ [a])) :
    ∀ e ∈ l, e.packetTrack = some (trackOf req.url) → e.Over resp.announcesTcp (sessionOf w) := by
  have hstart : (sessionOf u).SendsOver (trackOf req.url) resp.announcesTcp :=
    sendsOver_of_setup hq hsetup hu hanswer hok
  have hrun : (sessionOf v).SendsOver (trackOf req.url) resp.announcesTcp :=
    Lts.run_invariant (fun _ _ _ hI hC h => sendsOver_step hI hC h) hstart
      (Lts.along_and (Lts.along_append hv hnext).1 (Lts.along_append hv hkind).1) hv
  exact over_step hrun hw hlog

def videoSetup : RTSPRequest := setupRequest "RTP/AVP/TCP;unicast;interleaved=0-1"

/-- DESCRIBE of the clip. -/
def described : List (SessionAct (MediaSource PacketList Unit)) :=
  exchange (describeRequest "rtsp://h/a.mp4")

/-- SETUP of the audio track with this Transport header, then PLAY. -/
def otherSetup (transport : String) : List (SessionAct (MediaSource PacketList Unit)) :=
  exchange { setupRequest transport with url := ascii "rtsp://h/a.mp4/trackID=1" } ++
    exchange playRequest

/-- The answer to the SETUP of the video. -/
def videoAnswer : RTSPResponse :=
  RTSPResponse.setup oneFile.timestamp 3 client.sessionId (tcpTransport (0, 1))

/-- The SETUP of the video is answered 200 over TCP, and no other one follows. -/
def SetsUpVideo (transport : String) (s : Session (MediaSource PacketList Unit))
    (u v w : Handled (MediaSource PacketList Unit)) : Prop :=
  s.cmdQueue = [videoSetup] ∧
    (sessionOf u).log = s.log ++ [.request videoSetup, .response videoAnswer] ∧
    videoAnswer.status = 200 ∧ videoAnswer.announcesTcp = true ∧
    (sessionOf w).log = (sessionOf v).log ++ newEvents v w ∧
    Lts.Along sessionStep (OtherTrack .video) u (otherSetup transport ++ [.pace oneFile 1])

instance (transport : String) (s : Session (MediaSource PacketList Unit))
    (u v w : Handled (MediaSource PacketList Unit)) : Decidable (SetsUpVideo transport s u v w) :=
  inferInstanceAs (Decidable (_ ∧ _))

/-- The audio is set up over TCP as well, and the first packet of the video is an interleaved
    frame. -/
theorem track_over_announced_audioTcp : ∃ s u v w,
    Lts.run sessionStep (.ok client) (described ++ [.command videoSetup]) = some (.ok s) ∧
      sessionStep (.ok s) (.handle oneFile) = some u ∧
      Lts.run sessionStep u (otherSetup "RTP/AVP/TCP;unicast;interleaved=2-3") = some v ∧
      sessionStep v (.pace oneFile 1) = some w ∧
      some .video ∈ (newEvents v w).map Event.packetTrack ∧
      ∀ e ∈ newEvents v w, e.packetTrack = some .video → e.Over true (sessionOf w) := by
  obtain ⟨s, u, v, w, hs, hu, hv, hw, hP⟩ := statesAround_eq (P := fun s u v w => decide (
      SetsUpVideo "RTP/AVP/TCP;unicast;interleaved=2-3" s u v w ∧
        Lts.Along sessionStep (SameKind true) u
          (otherSetup "RTP/AVP/TCP;unicast;interleaved=2-3" ++ [.pace oneFile 1]) ∧
        some .video ∈ (newEvents v w).map Event.packetTrack))
    (show (statesAround described videoSetup
      (otherSetup "RTP/AVP/TCP;unicast;interleaved=2-3")).map _ = _ by decide +kernel)
  obtain ⟨⟨hq, hanswer, hok, htcp, hlog, hnext⟩, hkind, hmem⟩ := of_decide_eq_true hP
  refine ⟨s, u, v, w, hs, hu, hv, hw, hmem, ?_⟩
  have hover := track_over_announced s oneFile videoSetup [] videoAnswer u v w _ _ _ hq rfl hu
    hanswer hok hv hw hlog
  rw [htcp] at hover
  exact hover hnext hkind

/-- A SETUP of the audio without a port is refused, and the packets of the video, announced over
    TCP, go nowhere. -/
theorem rejectedSetup_loses_video : ∃ s u v w,
    Lts.run sessionStep (.ok client) (described ++ [.command videoSetup]) = some (.ok s) ∧
      sessionStep (.ok s) (.handle oneFile) = some u ∧
      Lts.run sessionStep u (otherSetup "RTP/AVP;unicast") = some v ∧
      sessionStep v (.pace oneFile 1) = some w ∧
      SetsUpVideo "RTP/AVP;unicast" s u v w ∧
      ¬ ∀ e ∈ newEvents v w, e.packetTrack = some .video →
        e.Over videoAnswer.announcesTcp (sessionOf w) := by
  obtain ⟨s, u, v, w, hs, hu, hv, hw, hP⟩ := statesAround_eq (P := fun s u v w => decide (
      SetsUpVideo "RTP/AVP;unicast" s u v w ∧
        ¬ ∀ e ∈ newEvents v w, e.packetTrack = some .video →
          e.Over videoAnswer.announcesTcp (sessionOf w)))
    (show (statesAround described videoSetup (otherSetup "RTP/AVP;unicast")).map _ = _ by
      decide +kernel)
  obtain ⟨hsets, hlost⟩ := of_decide_eq_true hP
  exact ⟨s, u, v, w, hs, hu, hv, hw, hsets, hlost⟩

end RtspServer
