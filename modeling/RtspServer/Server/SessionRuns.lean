/-
  Runs of a session: requests and ticks in any order, from any state or from a new session.

  `Paces` says what the pacing part of a tick and the helpers of the handlers can do to the
  fields the results here speak about; `Answers` says the same of the handlers.

  * `answered_iff`: each request that is handled gets exactly one response, in order and with
    its sequence number, exactly as long as none is a SETUP whose Transport header makes
    `std::stoi` throw. `pacerTick_run` shows that a tick is a run of these steps.
  * `aside_handleRequest`: a request other than DESCRIBE and PLAY leaves the pacing alone.
-/
import RtspServer.Media.MediaSource
import RtspServer.Server.PacerSteps

namespace RtspServer

open ByteString Decimal

variable {M : Type}

/-! ## What the steps of a tick leave alone -/

/-- The event is a request or a response. -/
def Event.isExchange : Event → Bool
  | .request _ | .response _ => true
  | _ => false

/-- The requests and responses of a log, in order. -/
def dialogue (log : List Event) : List Event := log.filter Event.isExchange

namespace Session

/-- No request is taken and no response given, the source and the transport stay, and the
    state stays or becomes PAUSED. -/
structure Paces (s s' : Session M) : Prop where
  dialogue : dialogue s'.log = dialogue s.log
  source : s'.mediaSource.isSome = s.mediaSource.isSome
  ready : s'.transportReady = s.transportReady
  state : s'.state = s.state ∨ s'.state = .paused

theorem Paces.refl (s : Session M) : Paces s s := ⟨rfl, rfl, rfl, .inl rfl⟩

theorem Paces.trans {s t u : Session M} (h : Paces s t) (h' : Paces t u) : Paces s u := by
  refine ⟨h'.dialogue.trans h.dialogue, h'.source.trans h.source, h'.ready.trans h.ready, ?_⟩
  rcases h'.state with hu | hu
  · rw [hu]
    exact h.state
  · exact .inr hu

/-- The log grows by events that are neither requests nor responses. -/
theorem Paces.of_tail {s s' : Session M} (tail : List Event) (hlog : s'.log = s.log ++ tail)
    (htail : ∀ e ∈ tail, e.isExchange = false)
    (hsource : s'.mediaSource.isSome = s.mediaSource.isSome)
    (hready : s'.transportReady = s.transportReady) (hstate : s'.state = s.state) :
    Paces s s' := by
  refine ⟨?_, hsource, hready, .inl hstate⟩
  have hnone : tail.filter Event.isExchange = [] := by
    rw [List.filter_eq_nil_iff]
    intro e he
    rw [htail e he]
    exact Bool.false_ne_true
  rw [hlog, RtspServer.dialogue, List.filter_append, hnone, List.append_nil]
  rfl

theorem dialogue_emit (e : Event) (s : Session M) :
    RtspServer.dialogue (s.emit e).log =
      RtspServer.dialogue s.log ++ if e.isExchange then [e] else [] := by
  unfold emit RtspServer.dialogue
  rw [List.filter_append]
  cases he : e.isExchange <;> simp [he]

theorem paces_emit {e : Event} (he : e.isExchange = false) (s : Session M) :
    Paces s (s.emit e) := by
  refine ⟨?_, rfl, rfl, .inl rfl⟩
  rw [dialogue_emit, he]
  simp

/-! ## What the handlers do -/

/-- One response is given, with this sequence number, and no request is taken. -/
def Answers (cseq : Int) (s s' : Session M) : Prop :=
  ∃ r, RtspServer.dialogue s'.log = RtspServer.dialogue s.log ++ [.response r] ∧
    r.cseqOf = some (toDec cseq)

theorem Answers.of_send {cseq : Int} {s s' : Session M} {r : RTSPResponse}
    (h : RtspServer.dialogue s'.log = RtspServer.dialogue s.log)
    (hr : r.cseqOf = some (toDec cseq)) : Answers cseq s (s'.sendResponse r) := by
  refine ⟨r, ?_, hr⟩
  rw [sendResponse, dialogue_emit, h]
  rfl

theorem answers_sendError (env : Env M) (cseq code : Int) (reason : String) {s s' : Session M}
    (h : RtspServer.dialogue s'.log = RtspServer.dialogue s.log) :
    Answers cseq s (s'.sendError env cseq code reason) :=
  .of_send h (RTSPResponse.cseqOf_error _ _ _ _)

/-- The media of the URL can be opened: the path is not empty, stays below the root, exists and
    the library accepts it. -/
def Openable (env : Env M) (root url : Bytes) : Prop :=
  let path := StringUtils.urlPath url
  let full := env.fs.append root (relativePath path)
  path ≠ [] ∧ path ≠ ascii "/" ∧ escaped env.fs root full = false ∧
    env.fs.isPresent full = true ∧ (env.openSource full).isSome

/-- `openMedia`: it opens the source and answers nothing, or answers and leaves none. -/
theorem openMedia_spec (env : Env M) (url : Bytes) (cseq : Int) {s : Session M}
    (hs : s.mediaSource = none) :
    (Openable env s.mediaRoot url →
      ∃ source, openMedia env url cseq s = (true, { s with mediaSource := some source })) ∧
    (¬ Openable env s.mediaRoot url →
      ∃ s', openMedia env url cseq s = (false, s') ∧ Answers cseq s s' ∧ s'.mediaSource = none ∧
        s'.transportReady = s.transportReady ∧ s'.state = s.state) := by
  unfold openMedia Openable
  dsimp only
  constructor
  · intro ⟨hne, hslash, hesc, hpresent, hopen⟩
    obtain ⟨source, hsource⟩ := Option.isSome_iff_exists.mp hopen
    refine ⟨source, ?_⟩
    rw [if_neg (not_or.mpr ⟨hne, hslash⟩), hesc, if_neg Bool.false_ne_true,
      if_neg (not_not.mpr hpresent), hsource]
  · intro hno
    split
    · exact ⟨_, rfl, answers_sendError env cseq 404 "Not Found" rfl, hs, rfl, rfl⟩
    · next hpath =>
        split
        · exact ⟨_, rfl, answers_sendError env cseq 403 "Forbidden" rfl, hs, rfl, rfl⟩
        · next hesc =>
            split
            · exact ⟨_, rfl, answers_sendError env cseq 404 "Not Found" rfl, hs, rfl, rfl⟩
            · next hpresent =>
                split
                · have hans : Answers cseq s (s.sendError env cseq 415 "Unsupported Media Type") :=
                    answers_sendError env cseq 415 _ rfl
                  exact ⟨_, rfl, hans, rfl, rfl, rfl⟩
                · next source hopen =>
                    exact absurd ⟨fun h => hpath (.inl h), fun h => hpath (.inr h),
                      Bool.of_not_eq_true hesc, not_not.mp hpresent,
                      by rw [hopen]; rfl⟩ hno

/-! ## The pacing steps that use the source -/

variable [IMediaSource M]

theorem paces_fetches {source : M} {s t : Session M} (h : Fetches source s t)
    (hsource : s.mediaSource = some source) : Paces s t := by
  cases h with
  | gated ht =>
      obtain ⟨w, p, g, rfl⟩ := ht
      exact ⟨rfl, rfl, rfl, .inl rfl⟩
  | held ht =>
      obtain ⟨w, p, g, rfl⟩ := ht
      exact ⟨rfl, rfl, rfl, .inl rfl⟩
  | ended ht =>
      obtain ⟨w, p, g, rfl⟩ := ht
      refine Paces.trans ?_ (paces_emit rfl _)
      exact ⟨rfl, by rw [hsource]; rfl, rfl, .inl rfl⟩
  | read ht _ hstate =>
      obtain ⟨w, p, g, rfl⟩ := ht
      exact ⟨rfl, by rw [hsource]; rfl, rfl, hstate⟩

theorem paces_anchor (now : Int) (source : M) (vp : VideoPacket) (s : Session M) :
    Paces s (s.anchor now source vp) := by
  rcases anchor_cases now source vp s with ⟨-, gate, audio, heq⟩ | ⟨-, gate, heq⟩
  · rw [heq]
    exact .of_tail [.anchored vp now] rfl (by simp [Event.isExchange]) rfl rfl rfl
  · rw [heq]
    exact ⟨rfl, rfl, rfl, .inl rfl⟩

omit [IMediaSource M] in
theorem isExchange_of_packetTrack {e : Event} {track : Track} (h : e.packetTrack = some track) :
    e.isExchange = false := by
  unfold Event.isExchange
  split
  · cases h
  · cases h
  · rfl

omit [IMediaSource M] in
theorem packetTrack_of_videoPacket {e : Event} {p : Bytes} (h : e.videoPacket = some p) :
    e.packetTrack = some .video := by
  unfold Event.videoPacket at h
  split at h
  · rfl
  · rfl
  · rfl
  · cases h

omit [IMediaSource M] in
/-- The events of a list whose video packets are given are packets of the video track. -/
theorem packetTrack_of_map {tail : List Event} {packets : List Bytes}
    (h : tail.map Event.videoPacket = packets.map some) :
    ∀ e ∈ tail, e.packetTrack = some .video := by
  intro e he
  have hmem : e.videoPacket ∈ packets.map some := by
    rw [← h]
    exact List.mem_map_of_mem he
  obtain ⟨p, -, hp⟩ := List.mem_map.mp hmem
  exact packetTrack_of_videoPacket hp.symm

theorem paces_sendFrame (env : Env M) (source : M) (vp : VideoPacket) (s : Session M) :
    Paces s (s.sendFrame env source vp) := by
  obtain ⟨loads, close, tail, heq, htail⟩ := sendFrame_spec env source vp s
  rw [heq]
  refine .of_tail (.sending vp :: tail) rfl (fun e he => ?_) rfl rfl rfl
  rcases List.mem_cons.mp he with rfl | he
  · rfl
  · exact isExchange_of_packetTrack (packetTrack_of_map htail e he)

theorem paces_paceAudio (env : Env M) (now : Int) (source : M) (s : Session M) :
    Paces s (s.paceAudio env now source) := by
  obtain ⟨seq, loads, close, tail, held, n, heq, htail⟩ := paceAudio_spec env now source s
  rw [heq]
  exact .of_tail tail rfl (fun e he => isExchange_of_packetTrack (htail e he))
    (Option.isSome_map ..) rfl rfl

theorem paces_pace (env : Env M) (now : Int) (s : Session M) : Paces s (s.pace env now) := by
  rcases pace_cases env now s with ⟨pause, pending, -, heq⟩ | ⟨source, t, hsource, -, -, ht, heq⟩
  · rw [heq]
    exact ⟨rfl, rfl, rfl, .inl rfl⟩
  · rw [heq]
    refine (paces_fetches ht hsource).trans ?_
    rcases pacePending_cases env now t with heq | ⟨source', vp, u, -, -, hu, heq⟩
    · rw [heq]
      exact Paces.refl t
    · have htimed : Paces t u := by
        rw [hu]
        exact (paces_anchor now source' vp t).trans (paces_emit rfl _)
      rcases heq with heq | heq
      · rw [heq]
        exact htimed
      · rw [heq]
        refine (htimed.trans (paces_sendFrame env source' vp u)).trans ?_
        refine Paces.trans ?_ (paces_paceAudio env now source' _)
        exact ⟨rfl, rfl, rfl, .inl rfl⟩

theorem paces_seekAndReset (secs : Rat) (adjust : Bool) (s : Session M) :
    Paces s (s.seekAndReset secs adjust) := by
  unfold seekAndReset
  split
  · exact Paces.refl s
  · next source hs =>
      refine Paces.trans ?_ (paces_emit rfl _)
      exact ⟨rfl, by rw [hs]; rfl, rfl, .inl rfl⟩

theorem paces_rtpInfo (url : Bytes) (s : Session M) : Paces s (s.rtpInfo url).2 := by
  unfold rtpInfo
  split
  · exact Paces.refl s
  · next source hs => exact ⟨rfl, by rw [hs]; rfl, rfl, .inl rfl⟩

/-! ## The handlers -/

omit [IMediaSource M] in
theorem handleOptions_spec (env : Env M) (req : RTSPRequest) (s : Session M) :
    Answers req.cseq s (s.handleOptions env req) :=
  .of_send rfl (RTSPResponse.cseqOf_options _ _ _)

theorem handleDescribe_spec (env : Env M) (req : RTSPRequest) (s : Session M) :
    Answers req.cseq s (s.handleDescribe env req) ∧
      (s.handleDescribe env req).state = s.state ∧
      (s.handleDescribe env req).transportReady = s.transportReady ∧
      ((s.handleDescribe env req).mediaSource.isSome ↔ Openable env s.mediaRoot req.url) := by
  obtain ⟨hopens, hfails⟩ :=
    openMedia_spec env req.url req.cseq (s := { s with mediaSource := none }) rfl
  unfold handleDescribe
  by_cases hopen : Openable env s.mediaRoot req.url
  · obtain ⟨source, hres⟩ := hopens hopen
    rw [hres]
    exact ⟨.of_send rfl (RTSPResponse.cseqOf_describe _ _ _ _), rfl, rfl, fun _ => hopen,
      fun _ => rfl⟩
  · obtain ⟨s', hres, hans, hnone, hready, hstate⟩ := hfails hopen
    rw [hres]
    refine ⟨hans, hstate, hready, fun h => ?_, fun h => absurd h hopen⟩
    rw [hnone] at h
    exact absurd h Bool.false_ne_true

/-- `std::stoi` throws on one of the channel numbers of the Transport header. -/
def ChannelsThrow (hdr : Bytes) : Prop :=
  ∃ p dash, find hdr (ascii "interleaved=") 0 = some p ∧
    find hdr (ascii "-") (p + 12) = some dash ∧
    (stoi (substr hdr (p + 12) (dash - (p + 12))) = none ∨ stoi (hdr.drop (dash + 1)) = none)

/-- `std::stoi` throws on the port of the Transport header. -/
def PortThrows (hdr : Bytes) : Prop := ∃ text, clientPortText hdr = some text ∧ stoi text = none

/-- The request is a SETUP that reaches a `std::stoi` that throws. -/
def SetupThrows (req : RTSPRequest) (s : Session M) : Prop :=
  req.method = ascii "SETUP" ∧ s.describeDone = true ∧ s.mediaSource.isSome ∧
    req.header (ascii "transport") ≠ [] ∧
    if wantsTcp (req.header (ascii "transport")) then
      ChannelsThrow (req.header (ascii "transport"))
    else PortThrows (req.header (ascii "transport"))

/-- The two ways a Transport header can be answered: the set-up of this track did not succeed,
    or it did and a video track makes the session READY. -/
def SetsUp (s s' : Session M) : Prop :=
  s'.mediaSource = s.mediaSource ∧
    (s'.state = s.state ∧ s'.transportReady = s.transportReady ∨
      s'.state = .ready ∧ s'.transportReady = true)

omit [IMediaSource M] in
theorem setupDone_spec (env : Env M) (req : RTSPRequest) (track : Track) (transport : Bytes)
    {s s' : Session M} (hlog : s'.log = s.log) (hsource : s'.mediaSource = s.mediaSource)
    (hstate : s'.state = s.state) (hready : s'.transportReady = s.transportReady) :
    Answers req.cseq s ((s'.setReady track).setupDone env req track transport) ∧
      SetsUp s ((s'.setReady track).setupDone env req track transport) := by
  unfold setupDone
  cases track with
  | video =>
      refine ⟨.of_send ?_ (RTSPResponse.cseqOf_setup _ _ _ _), hsource, .inr ⟨rfl, rfl⟩⟩
      exact congrArg RtspServer.dialogue hlog
  | audio =>
      refine ⟨.of_send ?_ (RTSPResponse.cseqOf_setup _ _ _ _), hsource, .inl ⟨hstate, hready⟩⟩
      exact congrArg RtspServer.dialogue hlog

/-- What an exception leaves of a request: nothing answered, nothing set up. -/
def Aborts (s s' : Session M) : Prop :=
  s'.log = s.log ∧ s'.mediaSource = s.mediaSource ∧ s'.state = s.state ∧
    s'.transportReady = s.transportReady

omit [IMediaSource M] in
theorem aborts_setChannels (track : Track) (c : Int × Int) (s : Session M) :
    Aborts s ({ s with useTcp := true }.setChannels track c) := by
  cases track <;> exact ⟨rfl, rfl, rfl, rfl⟩

omit [IMediaSource M] in
theorem aborts_setSender (track : Track) (sender : UdpSender) (s : Session M) :
    Aborts s ({ s with useTcp := false }.setSender track sender) := by
  cases track <;> exact ⟨rfl, rfl, rfl, rfl⟩

theorem parseChannels_spec (hdr : Bytes) (old : Int × Int) :
    (ChannelsThrow hdr → ∃ c, parseChannels hdr old = .error c) ∧
      (¬ ChannelsThrow hdr → ∃ c, parseChannels hdr old = .ok c) := by
  constructor
  · intro ⟨p, dash, hp, hdash, hthrow⟩
    unfold parseChannels
    rw [hp]
    dsimp only
    rw [hdash]
    dsimp only
    split
    · exact ⟨_, rfl⟩
    · next rtp hrtp =>
        rcases hthrow with h | h
        · rw [h] at hrtp; cases hrtp
        · rw [h]; exact ⟨_, rfl⟩
  · intro hno
    unfold parseChannels
    split
    · exact ⟨_, rfl⟩
    · next p hp =>
        split
        · exact ⟨_, rfl⟩
        · next dash hdash =>
            split
            · next h => exact absurd ⟨p, dash, hp, hdash, .inl h⟩ hno
            · split
              · next h => exact absurd ⟨p, dash, hp, hdash, .inr h⟩ hno
              · exact ⟨_, rfl⟩

omit [IMediaSource M] in
theorem setupTcp_spec (env : Env M) (req : RTSPRequest) (hdr : Bytes) (track : Track)
    (s : Session M) :
    (ChannelsThrow hdr → ∃ s', setupTcp env req hdr track s = .error s' ∧ Aborts s s') ∧
      (¬ ChannelsThrow hdr → ∃ s', setupTcp env req hdr track s = .ok s' ∧
        Answers req.cseq s s' ∧ SetsUp s s') := by
  obtain ⟨hthrows, hreads⟩ := parseChannels_spec hdr (({ s with useTcp := true }).channels track)
  unfold setupTcp
  constructor
  · intro h
    obtain ⟨c, hc⟩ := hthrows h
    dsimp only
    rw [hc]
    exact ⟨_, rfl, aborts_setChannels track c s⟩
  · intro h
    obtain ⟨c, hc⟩ := hreads h
    obtain ⟨hlog, hsource, hstate, hready⟩ := aborts_setChannels track c s
    dsimp only
    rw [hc]
    exact ⟨_, rfl, setupDone_spec env req track (tcpTransport c) hlog hsource hstate hready⟩

omit [IMediaSource M] in
theorem setupUdp_spec (env : Env M) (req : RTSPRequest) (hdr : Bytes) (track : Track)
    (s : Session M) :
    (PortThrows hdr → ∃ s', setupUdp env req hdr track s = .error s' ∧ Aborts s s') ∧
      (¬ PortThrows hdr → ∃ s', setupUdp env req hdr track s = .ok s' ∧
        Answers req.cseq s s' ∧ SetsUp s s') := by
  constructor
  · intro ⟨text, htext, hstoi⟩
    unfold setupUdp
    dsimp only
    rw [htext]
    dsimp only
    rw [hstoi]
    exact ⟨_, rfl, rfl, rfl, rfl, rfl⟩
  · intro hno
    unfold setupUdp
    dsimp only
    split
    · exact ⟨_, rfl, answers_sendError env _ _ _ rfl, rfl, .inl ⟨rfl, rfl⟩⟩
    · next text htext =>
        split
        · next hstoi => exact absurd ⟨text, htext, hstoi⟩ hno
        · next v hstoi =>
            split
            · obtain ⟨hlog, hsource, hstate, hready⟩ := aborts_setSender track ⟨none⟩ s
              exact ⟨_, rfl, answers_sendError env _ _ _ (congrArg RtspServer.dialogue hlog), hsource,
                .inl ⟨hstate, hready⟩⟩
            · obtain ⟨hlog, hsource, hstate, hready⟩ :=
                aborts_setSender track ⟨some (s.clientIp, toPort v)⟩ s
              exact ⟨_, rfl, setupDone_spec env req track _ hlog hsource hstate hready⟩

omit [IMediaSource M] in
/-- `handleSetup`: the exception, or one answer. A session that becomes READY has a source. -/
theorem handleSetup_spec (env : Env M) {req : RTSPRequest} (s : Session M)
    (hm : req.method = ascii "SETUP") :
    (SetupThrows req s → ∃ s', s.handleSetup env req = .error s' ∧ Aborts s s') ∧
      (¬ SetupThrows req s → ∃ s', s.handleSetup env req = .ok s' ∧ Answers req.cseq s s' ∧
        SetsUp s s' ∧ (s'.state = s.state ∨ s.mediaSource.isSome)) := by
  unfold SetupThrows handleSetup
  constructor
  · intro ⟨_, hdone, hsource, hhdr, hthrow⟩
    rw [if_neg (by simp [hdone, Option.isSome_iff_ne_none.mp hsource])]
    dsimp only
    rw [if_neg hhdr]
    split at hthrow
    · next htcp => rw [if_pos htcp]; exact (setupTcp_spec env req _ _ s).1 hthrow
    · next htcp => rw [if_neg htcp]; exact (setupUdp_spec env req _ _ s).1 hthrow
  · intro hno
    split
    · exact ⟨_, rfl, answers_sendError env _ _ _ rfl, ⟨rfl, .inl ⟨rfl, rfl⟩⟩, .inl rfl⟩
    · next hguard =>
        have hguard : s.describeDone = true ∧ s.mediaSource.isSome = true := by
          simpa [Option.isSome_iff_ne_none] using hguard
        dsimp only
        split
        · exact ⟨_, rfl, answers_sendError env _ _ _ rfl, ⟨rfl, .inl ⟨rfl, rfl⟩⟩, .inl rfl⟩
        · next hhdr =>
            split
            · next htcp =>
                obtain ⟨s', hres, hans, hsets⟩ := (setupTcp_spec env req _ _ s).2
                  fun h => hno ⟨hm, hguard.1, hguard.2, hhdr, by rw [if_pos htcp]; exact h⟩
                exact ⟨s', hres, hans, hsets, .inr hguard.2⟩
            · next htcp =>
                obtain ⟨s', hres, hans, hsets⟩ := (setupUdp_spec env req _ _ s).2
                  fun h => hno ⟨hm, hguard.1, hguard.2, hhdr, by rw [if_neg htcp]; exact h⟩
                exact ⟨s', hres, hans, hsets, .inr hguard.2⟩

theorem paces_freshPlay (start stop : Rat) (s : Session M) : Paces s (s.freshPlay start stop) :=
  (paces_seekAndReset start false s).trans ⟨rfl, rfl, rfl, .inl rfl⟩

omit [IMediaSource M] in
theorem paces_resumePlay (env : Env M) (s : Session M) : Paces s (s.resumePlay env) := by
  unfold resumePlay
  split <;> exact ⟨rfl, rfl, rfl, .inl rfl⟩

omit [IMediaSource M] in
theorem playDone_spec (env : Env M) (req : RTSPRequest) (range info : Bytes) {s s' : Session M}
    (h : Paces s s') :
    Answers req.cseq s (s'.playDone env req range info) ∧
      (s'.playDone env req range info).mediaSource.isSome = s.mediaSource.isSome ∧
      (s'.playDone env req range info).transportReady = s.transportReady :=
  ⟨.of_send h.dialogue (RTSPResponse.cseqOf_play _ _ _ _ _), h.source, h.ready⟩

/-- `handlePlay`: one answer; source and transport stay, and a session in INIT stays there. -/
theorem handlePlay_spec (env : Env M) (req : RTSPRequest) (s : Session M) :
    Answers req.cseq s (s.handlePlay env req) ∧
      (s.handlePlay env req).mediaSource.isSome = s.mediaSource.isSome ∧
      (s.handlePlay env req).transportReady = s.transportReady ∧
      (s.state = .init → (s.handlePlay env req).state = .init) := by
  unfold handlePlay
  split
  · next hinit => exact ⟨answers_sendError env _ _ _ rfl, rfl, rfl, fun _ => hinit⟩
  · next hinit =>
      dsimp only
      split
      · obtain ⟨h1, h2, h3⟩ := playDone_spec env req (nptRange (max 0 s.lastNpt)) []
          (paces_resumePlay env s)
        exact ⟨h1, h2, h3, fun h => absurd h hinit⟩
      · split
        · obtain ⟨h1, h2, h3⟩ := playDone_spec env req (nptRange (max 0 s.lastNpt)) []
            (paces_seekAndReset s.lastKeyframeNpt true s)
          exact ⟨h1, h2, h3, fun h => absurd h hinit⟩
        · obtain ⟨h1, h2, h3⟩ := playDone_spec env req _ _
            ((paces_freshPlay _ _ s).trans (paces_rtpInfo req.url _))
          exact ⟨h1, h2, h3, fun h => absurd h hinit⟩

omit [IMediaSource M] in
theorem handlePause_spec (env : Env M) (req : RTSPRequest) (s : Session M) :
    Answers req.cseq s (s.handlePause env req) ∧
      (s.handlePause env req).mediaSource = s.mediaSource ∧
      (s.handlePause env req).transportReady = s.transportReady ∧
      (s.state = .init → (s.handlePause env req).state = .init) := by
  unfold handlePause
  split
  · exact ⟨answers_sendError env _ _ _ rfl, rfl, rfl, fun h => h⟩
  · next hplaying =>
      refine ⟨.of_send rfl ?_, rfl, rfl, fun h => absurd (by rw [h]; decide) hplaying⟩
      split
      · rw [RTSPResponse.cseqOf_set (by decide)]
        exact RTSPResponse.cseqOf_ok _ _ _
      · exact RTSPResponse.cseqOf_ok _ _ _

/-! ## All handlers -/

/-- An exception leaves `handleRequest` exactly in a SETUP whose `std::stoi` throws, and then
    nothing is answered; otherwise there is one answer with the request's sequence number. -/
theorem handleRequest_spec (env : Env M) (req : RTSPRequest) (s : Session M) :
    (SetupThrows req s → ∃ s', s.handleRequest env req = .error s' ∧ Aborts s s') ∧
      (¬ SetupThrows req s → ∃ s', s.handleRequest env req = .ok s' ∧ Answers req.cseq s s') := by
  unfold handleRequest
  by_cases hsetup : req.method = ascii "SETUP"
  · have h1 : req.method ≠ ascii "OPTIONS" := by rw [hsetup]; decide
    have h2 : req.method ≠ ascii "DESCRIBE" := by rw [hsetup]; decide
    rw [if_neg h1, if_neg h2, if_pos hsetup]
    obtain ⟨hthrows, hanswers⟩ := handleSetup_spec env s hsetup
    refine ⟨hthrows, fun hno => ?_⟩
    obtain ⟨s', hres, hans, -⟩ := hanswers hno
    exact ⟨s', hres, hans⟩
  · refine ⟨fun h => absurd h.1 hsetup, fun _ => ?_⟩
    rw [if_neg hsetup]
    split
    · exact ⟨_, rfl, handleOptions_spec env req s⟩
    split
    · exact ⟨_, rfl, (handleDescribe_spec env req s).1⟩
    split
    · exact ⟨_, rfl, (handlePlay_spec env req s).1⟩
    split
    · exact ⟨_, rfl, (handlePause_spec env req s).1⟩
    split
    · have hans : Answers req.cseq s ({ s with state := .init }.sendResponse
          (RTSPResponse.ok env.timestamp req.cseq s.sessionId)) :=
        .of_send rfl (RTSPResponse.cseqOf_ok _ _ _)
      exact ⟨_, rfl, hans⟩
    · exact ⟨_, rfl, answers_sendError env _ _ _ rfl⟩

end Session

open Session

variable [IMediaSource M]

/-- Between the two logs, each request taken is followed by its one response, with its sequence
    number, before the next is taken. -/
def Answered (before after : List Event) : Prop :=
  ∃ ps : List (RTSPRequest × RTSPResponse),
    dialogue after = dialogue before ++ ps.flatMap (fun p => [.request p.1, .response p.2]) ∧
      ∀ p ∈ ps, p.2.cseqOf = some (toDec p.1.cseq)

/-- The request the step handles, if any, is not a SETUP whose `std::stoi` throws. -/
def NoSetupThrow : Handled M → SessionAct M → Prop
  | .ok s, .handle _ => ∀ req rest, s.cmdQueue = req :: rest → ¬ SetupThrows req s
  | _, _ => True

omit [IMediaSource M] in
theorem Answered.snoc {before log after : List Event} {req : RTSPRequest} {r : RTSPResponse}
    (h : Answered before log) (hr : r.cseqOf = some (toDec req.cseq))
    (hlog : dialogue after = dialogue log ++ [.request req] ++ [.response r]) :
    Answered before after := by
  obtain ⟨ps, hps, hall⟩ := h
  refine ⟨ps ++ [(req, r)], ?_, ?_⟩
  · rw [hlog, hps, List.flatMap_append]
    simp
  · intro p hp
    rcases List.mem_append.mp hp with hp | hp
    · exact hall p hp
    · rw [List.mem_singleton.mp hp]
      exact hr

/-- A request that does not throw adds its exchange to the log. -/
theorem answered_handleNext {env : Env M} {req : RTSPRequest} {rest : List RTSPRequest}
    {s : Session M} {before : List Event} (hI : Answered before s.log)
    (hno : ¬ SetupThrows req s) :
    ∃ s', s.handleNext env req rest = .ok s' ∧ Answered before s'.log := by
  obtain ⟨s', hres, r, hlog, hr⟩ :=
    (handleRequest_spec env req ({ s with cmdQueue := rest }.emit (.request req))).2 hno
  exact ⟨s', hres, hI.snoc hr (by rw [hlog, dialogue_emit]; rfl)⟩

theorem answered_step {before : List Event} {t t' : Handled M} {a : SessionAct M}
    (hI : ∃ s, t = .ok s ∧ Answered before s.log) (hC : NoSetupThrow t a)
    (h : sessionStep t a = some t') : ∃ s, t' = .ok s ∧ Answered before s.log := by
  obtain ⟨s, rfl, hlog⟩ := hI
  cases a with
  | command req =>
      obtain rfl := Option.some.inj h
      exact ⟨_, rfl, hlog⟩
  | handle env =>
      simp only [sessionStep] at h
      split at h
      · cases h
      · next req rest hq =>
          obtain rfl := Option.some.inj h
          exact answered_handleNext hlog (hC req rest hq)
  | pace env now =>
      obtain rfl := Option.some.inj h
      obtain ⟨ps, hps, hall⟩ := hlog
      exact ⟨_, rfl, ps, by rw [(paces_pace env now s).dialogue, hps], hall⟩

/-- An exception ends the run. -/
theorem run_of_error {s : Session M} {as : List (SessionAct M)} {t : Handled M}
    (h : Lts.run sessionStep (.error s) as = some t) : t = .error s := by
  cases as with
  | nil => exact (Option.some.inj h).symm
  | cons a as =>
      obtain ⟨t', ht, -⟩ := Lts.run_cons h
      cases ht

/-! ## What a request leaves alone -/

/-- The event has to do with a video packet. -/
def Event.isVideo : Event → Bool
  | .sending _ | .interleaved .video _ | .datagram .video _ _ | .dropped .video _ => true
  | _ => false

/-- No command is pushed or popped and no video packet built. -/
structure Quiet (s s' : Session M) : Prop where
  cmdQueue : s'.cmdQueue = s.cmdQueue
  rtpSeq : s'.rtpSeq = s.rtpSeq
  ssrc : s'.ssrc = s.ssrc
  log : ∃ tail, s'.log = s.log ++ tail ∧ ∀ e ∈ tail, e.isVideo = false

/-- The queue and the pacing of a session: its source, the frames it holds, its RTP clocks and
    numbers. -/
structure Stream (M : Type) where
  cmdQueue : List RTSPRequest
  source : Option M
  firstFrame : Bool
  loopVideoOffset : UInt32
  audioLoopOffset : UInt32
  pendingVp : Option VideoPacket
  pendingAp : Option AudioPacket
  lastVideoRtp : UInt32
  lastFrameDur : Option UInt32
  resumeWaitingForIdr : Bool
  lastKeyframeNpt : Rat
  nptEnd : Rat
  rtpSeq : UInt16
  ssrc : UInt32
  audioRtpSeq : UInt16
  audioSsrc : UInt32

def streamOf (s : Session M) : Stream M :=
  { cmdQueue := s.cmdQueue, source := s.mediaSource, firstFrame := s.firstFrame
    loopVideoOffset := s.loopVideoOffset, audioLoopOffset := s.audioLoopOffset
    pendingVp := s.pendingVp, pendingAp := s.pendingAp, lastVideoRtp := s.lastVideoRtp
    lastFrameDur := s.lastFrameDur, resumeWaitingForIdr := s.resumeWaitingForIdr
    lastKeyframeNpt := s.lastKeyframeNpt, nptEnd := s.nptEnd, rtpSeq := s.rtpSeq, ssrc := s.ssrc
    audioRtpSeq := s.audioRtpSeq, audioSsrc := s.audioSsrc }

/-- The pacing is not touched and nothing but requests and responses happens. -/
structure Aside (s s' : Session M) : Prop where
  stream : streamOf s' = streamOf s
  log : ∃ tail, s'.log = s.log ++ tail ∧ ∀ e ∈ tail, e.isExchange = true

section

omit [IMediaSource M]

theorem Quiet.of_same {s s' : Session M} (hqueue : s'.cmdQueue = s.cmdQueue)
    (hseq : s'.rtpSeq = s.rtpSeq) (hssrc : s'.ssrc = s.ssrc) (hlog : s'.log = s.log) :
    Quiet s s' :=
  ⟨hqueue, hseq, hssrc, [], by rw [hlog, List.append_nil], fun _ he => nomatch he⟩

theorem Quiet.refl (s : Session M) : Quiet s s := .of_same rfl rfl rfl rfl

theorem Quiet.trans {s t u : Session M} (h : Quiet s t) (h' : Quiet t u) : Quiet s u := by
  obtain ⟨l, hl, hquiet⟩ := h.log
  obtain ⟨l', hl', hquiet'⟩ := h'.log
  refine ⟨h'.cmdQueue.trans h.cmdQueue, h'.rtpSeq.trans h.rtpSeq, h'.ssrc.trans h.ssrc, l ++ l',
    by rw [hl', hl, List.append_assoc], ?_⟩
  intro e he
  rcases List.mem_append.mp he with he | he
  · exact hquiet e he
  · exact hquiet' e he

theorem Quiet.emit {s t : Session M} {e : Event} (h : Quiet s t) (he : e.isVideo = false) :
    Quiet s (t.emit e) := by
  refine h.trans ⟨rfl, rfl, rfl, [e], rfl, ?_⟩
  intro e' he'
  rw [List.mem_singleton.mp he']
  exact he

theorem Aside.of_same {s s' : Session M} (hstream : streamOf s' = streamOf s)
    (hlog : s'.log = s.log) : Aside s s' :=
  ⟨hstream, [], by rw [hlog, List.append_nil], fun _ he => nomatch he⟩

theorem Aside.refl (s : Session M) : Aside s s := .of_same rfl rfl

theorem Aside.trans {s t u : Session M} (h : Aside s t) (h' : Aside t u) : Aside s u := by
  obtain ⟨l, hl, hex⟩ := h.log
  obtain ⟨l', hl', hex'⟩ := h'.log
  refine ⟨h'.stream.trans h.stream, l ++ l', by rw [hl', hl, List.append_assoc], ?_⟩
  intro e he
  rcases List.mem_append.mp he with he | he
  · exact hex e he
  · exact hex' e he

theorem Aside.sendResponse {s t : Session M} (h : Aside s t) (resp : RTSPResponse) :
    Aside s (t.sendResponse resp) := by
  refine h.trans ⟨rfl, [.response resp], rfl, ?_⟩
  intro e he
  rw [List.mem_singleton.mp he]
  rfl

theorem Aside.sendError {s t : Session M} (h : Aside s t) (env : Env M) (cseq code : Int)
    (reason : String) : Aside s (t.sendError env cseq code reason) :=
  h.sendResponse _

theorem isVideo_of_isExchange {e : Event} (h : e.isExchange = true) : e.isVideo = false := by
  unfold Event.isExchange at h
  split at h
  · rfl
  · rfl
  · cases h

theorem Aside.quiet {s s' : Session M} (h : Aside s s') : Quiet s s' := by
  obtain ⟨hstream, tail, hlog, htail⟩ := h
  exact ⟨congrArg Stream.cmdQueue hstream, congrArg Stream.rtpSeq hstream,
    congrArg Stream.ssrc hstream, tail, hlog, fun e he => isVideo_of_isExchange (htail e he)⟩

theorem aside_setChannels (track : Track) (c : Int × Int) (s : Session M) :
    Aside s (s.setChannels track c) := by
  cases track <;> exact .of_same rfl rfl

theorem aside_setSender (track : Track) (sender : UdpSender) (s : Session M) :
    Aside s (s.setSender track sender) := by
  cases track <;> exact .of_same rfl rfl

theorem aside_setReady (track : Track) (s : Session M) : Aside s (s.setReady track) := by
  cases track <;> exact .of_same rfl rfl

theorem aside_setupDone (env : Env M) (req : RTSPRequest) (track : Track) (transport : Bytes)
    (s : Session M) : Aside s (s.setupDone env req track transport) := by
  unfold setupDone
  refine Aside.sendResponse ?_ _
  cases track <;> exact .of_same rfl rfl

theorem aside_setupTcp (env : Env M) (req : RTSPRequest) (hdr : Bytes) (track : Track)
    (s : Session M) : Aside s (sessionOf (setupTcp env req hdr track s)) := by
  have htcp : Aside s { s with useTcp := true } := .of_same rfl rfl
  unfold setupTcp
  dsimp only
  split
  · exact htcp.trans (aside_setChannels track _ _)
  · exact ((htcp.trans (aside_setChannels track _ _)).trans (aside_setReady track _)).trans
      (aside_setupDone env req track _ _)

theorem aside_setupUdp (env : Env M) (req : RTSPRequest) (hdr : Bytes) (track : Track)
    (s : Session M) : Aside s (sessionOf (setupUdp env req hdr track s)) := by
  have hudp : Aside s { s with useTcp := false } := .of_same rfl rfl
  unfold setupUdp
  dsimp only
  repeat' split
  · exact hudp.sendError env _ _ _
  · exact hudp
  · exact (hudp.trans (aside_setSender track _ _)).sendError env _ _ _
  · exact ((hudp.trans (aside_setSender track _ _)).trans (aside_setReady track _)).trans
      (aside_setupDone env req track _ _)

theorem aside_handleSetup (env : Env M) (req : RTSPRequest) (s : Session M) :
    Aside s (sessionOf (s.handleSetup env req)) := by
  unfold handleSetup
  dsimp only
  repeat' split
  · exact (Aside.refl s).sendError env _ _ _
  · exact (Aside.refl s).sendError env _ _ _
  · exact aside_setupTcp env req _ _ s
  · exact aside_setupUdp env req _ _ s

theorem aside_playDone (env : Env M) (req : RTSPRequest) (range info : Bytes) (s : Session M) :
    Aside s (s.playDone env req range info) := by
  refine Aside.sendResponse ?_ _
  exact .of_same rfl rfl

theorem aside_resumePlay (env : Env M) (s : Session M) : Aside s (s.resumePlay env) := by
  unfold resumePlay
  split <;> exact .of_same rfl rfl

theorem aside_handlePause (env : Env M) (req : RTSPRequest) (s : Session M) :
    Aside s (s.handlePause env req) := by
  unfold handlePause
  split
  · exact (Aside.refl s).sendError env _ _ _
  · refine Aside.sendResponse ?_ _
    exact .of_same rfl rfl

theorem aside_handleTeardown (env : Env M) (req : RTSPRequest) (s : Session M) :
    Aside s (s.handleTeardown env req) := by
  have hinit : Aside s { s with state := .init } := .of_same rfl rfl
  exact (hinit.sendResponse (RTSPResponse.ok env.timestamp req.cseq s.sessionId)).trans
    (.of_same rfl rfl)

/-- But for the source, opening media is aside from the video stream. -/
theorem aside_openMedia (env : Env M) (url : Bytes) (cseq : Int) (s : Session M) :
    Aside s { (openMedia env url cseq s).2 with mediaSource := s.mediaSource } := by
  have herror : ∀ code reason,
      Aside s { s.sendError env cseq code reason with mediaSource := s.mediaSource } :=
    fun code reason => ((Aside.refl s).sendError env cseq code reason).trans (.of_same rfl rfl)
  unfold openMedia
  dsimp only
  repeat' split
  · exact herror _ _
  · exact herror _ _
  · exact herror _ _
  · exact herror _ _
  · exact .of_same rfl rfl

end

theorem aside_handleDescribe (env : Env M) (req : RTSPRequest) (s : Session M) :
    Aside s { s.handleDescribe env req with mediaSource := s.mediaSource } := by
  obtain ⟨hstream, tail, hlog, htail⟩ :=
    aside_openMedia env req.url req.cseq { s with mediaSource := none }
  have hopen : Aside s { (openMedia env req.url req.cseq { s with mediaSource := none }).2 with
      mediaSource := s.mediaSource } := by
    exact ⟨congrArg (fun p => { p with source := s.mediaSource }) hstream, tail, hlog, htail⟩
  unfold handleDescribe
  split
  · next hres => rw [hres] at hopen; exact hopen
  · next hres =>
      rw [hres] at hopen
      split
      · exact hopen
      · exact (hopen.sendResponse _).trans (.of_same rfl rfl)

theorem quiet_handleDescribe (env : Env M) (req : RTSPRequest) (s : Session M) :
    Quiet s (s.handleDescribe env req) :=
  (aside_handleDescribe env req s).quiet.trans (.of_same rfl rfl rfl rfl)

theorem quiet_seekAndReset (secs : Rat) (adjust : Bool) (s : Session M) :
    Quiet s (s.seekAndReset secs adjust) := by
  unfold seekAndReset
  split
  · exact Quiet.refl s
  · refine Quiet.emit ?_ rfl
    exact .of_same rfl rfl rfl rfl

theorem quiet_rtpInfo (url : Bytes) (s : Session M) : Quiet s (s.rtpInfo url).2 := by
  unfold rtpInfo
  split <;> exact .of_same rfl rfl rfl rfl

theorem quiet_freshPlay (start stop : Rat) (s : Session M) : Quiet s (s.freshPlay start stop) :=
  (quiet_seekAndReset start false s).trans (.of_same rfl rfl rfl rfl)

/-- PLAY: an error or a resumption, or a seek before the answer. -/
theorem handlePlay_cases (env : Env M) (req : RTSPRequest) (s : Session M) :
    Aside s (s.handlePlay env req) ∨
      (∃ secs, Aside (s.seekAndReset secs true) (s.handlePlay env req)) ∨
      ∃ start stop, Aside ((s.freshPlay start stop).rtpInfo req.url).2 (s.handlePlay env req) := by
  unfold handlePlay
  dsimp only
  repeat' split
  · exact .inl ((Aside.refl s).sendError env _ _ _)
  · exact .inl ((aside_resumePlay env s).trans (aside_playDone env req _ _ _))
  · exact .inr (.inl ⟨_, aside_playDone env req _ _ _⟩)
  · exact .inr (.inr ⟨_, _, aside_playDone env req _ _ _⟩)

theorem quiet_handlePlay (env : Env M) (req : RTSPRequest) (s : Session M) :
    Quiet s (s.handlePlay env req) := by
  rcases handlePlay_cases env req s with h | ⟨secs, h⟩ | ⟨start, stop, h⟩
  · exact h.quiet
  · exact (quiet_seekAndReset secs true s).trans h.quiet
  · exact ((quiet_freshPlay start stop s).trans (quiet_rtpInfo req.url _)).trans h.quiet

/-- A request that is neither DESCRIBE nor PLAY does not touch the video stream. -/
theorem aside_handleRequest (env : Env M) {req : RTSPRequest} (s : Session M)
    (hdescribe : req.method ≠ ascii "DESCRIBE") (hplay : req.method ≠ ascii "PLAY") :
    Aside s (sessionOf (s.handleRequest env req)) := by
  unfold handleRequest
  rw [if_neg hdescribe, if_neg hplay]
  repeat' split
  · exact (Aside.refl s).sendResponse _
  · exact aside_handleSetup env req s
  · exact aside_handlePause env req s
  · exact aside_handleTeardown env req s
  · exact (Aside.refl s).sendError env _ _ _

theorem handleRequest_describe (env : Env M) {req : RTSPRequest} (s : Session M)
    (h : req.method = ascii "DESCRIBE") :
    s.handleRequest env req = .ok (s.handleDescribe env req) := by
  have hne : req.method ≠ ascii "OPTIONS" := by rw [h]; decide
  rw [handleRequest, if_neg hne, if_pos h]

theorem handleRequest_play (env : Env M) {req : RTSPRequest} (s : Session M)
    (h : req.method = ascii "PLAY") : s.handleRequest env req = .ok (s.handlePlay env req) := by
  have h1 : req.method ≠ ascii "OPTIONS" := by rw [h]; decide
  have h2 : req.method ≠ ascii "DESCRIBE" := by rw [h]; decide
  have h3 : req.method ≠ ascii "SETUP" := by rw [h]; decide
  rw [handleRequest, if_neg h1, if_neg h2, if_neg h3, if_pos h]

theorem handleRequest_setup (env : Env M) {req : RTSPRequest} (s : Session M)
    (h : req.method = ascii "SETUP") : s.handleRequest env req = s.handleSetup env req := by
  have h1 : req.method ≠ ascii "OPTIONS" := by rw [h]; decide
  have h2 : req.method ≠ ascii "DESCRIBE" := by rw [h]; decide
  rw [handleRequest, if_neg h1, if_neg h2, if_pos h]

theorem quiet_handleRequest (env : Env M) (req : RTSPRequest) (s : Session M) :
    Quiet s (sessionOf (s.handleRequest env req)) := by
  by_cases hdescribe : req.method = ascii "DESCRIBE"
  · rw [handleRequest_describe env s hdescribe]
    exact quiet_handleDescribe env req s
  · by_cases hplay : req.method = ascii "PLAY"
    · rw [handleRequest_play env s hplay]
      exact quiet_handlePlay env req s
    · exact (aside_handleRequest env s hdescribe hplay).quiet

/-! ## A tick is a run of these steps -/

/-- The commands of a tick are handled one by one. -/
theorem drainCommands_run (env : Nat → Env M) (k : Nat) (s : Session M) (q : List RTSPRequest)
    (hq : s.cmdQueue = q) :
    match drainCommands env k q s with
    | .error s' => ∃ as, Lts.run sessionStep (.ok s) as = some (.error s')
    | .ok (_, s') => ∃ as, Lts.run sessionStep (.ok s) as = some (.ok s') := by
  induction q generalizing k s with
  | nil => exact ⟨[], rfl⟩
  | cons req rest ih =>
      have hstep : sessionStep (.ok s) (.handle (env k)) = some (s.handleNext (env k) req rest) := by
        simp only [sessionStep, hq]
      have hqueue : (sessionOf (s.handleNext (env k) req rest)).cmdQueue = rest :=
        (quiet_handleRequest _ _ _).cmdQueue
      rw [drainCommands]
      cases hres : s.handleNext (env k) req rest with
      | error s' =>
          rw [hres] at hstep
          exact ⟨[.handle (env k)], Lts.run_cons_of hstep rfl⟩
      | ok s' =>
          rw [hres] at hstep hqueue
          dsimp only
          by_cases htd : req.method = ascii "TEARDOWN"
          · rw [if_pos htd]
            exact ⟨[.handle (env k)], Lts.run_cons_of hstep rfl⟩
          · rw [if_neg htd]
            have hrest := ih (k + 1) s' hqueue
            split at hrest <;>
            · obtain ⟨as, has⟩ := hrest
              exact ⟨.handle (env k) :: as, Lts.run_cons_of hstep has⟩

/-- What `pacerTick` does is a run of the steps. -/
theorem pacerTick_run (env : Nat → Env M) (now : Int) (s : Session M) :
    ∃ as, Lts.run sessionStep (.ok s) as = some (s.pacerTick env now) := by
  have hdrain := drainCommands_run env 0 s s.cmdQueue rfl
  unfold pacerTick
  split
  · next s' hres => rw [hres] at hdrain; exact hdrain
  · next s' hres => rw [hres] at hdrain; exact hdrain
  · next s' hres =>
      rw [hres] at hdrain
      obtain ⟨as, has⟩ := hdrain
      exact ⟨as ++ [.pace (env s.cmdQueue.length) now], Lts.run_snoc has rfl⟩

/-! ## Every request is answered -/

/-- **Exactly one response for each request.** In every run of commands, handled requests and
    ticks from any state of a session: no exception leaves a handler and every handled request
    has been answered by exactly one response, in order and with its sequence number, if and
    only if none of the requests was a SETUP whose Transport header makes `std::stoi` throw. -/
theorem answered_iff (s : Session M) (as : List (SessionAct M)) (t : Handled M)
    (h : Lts.run sessionStep (.ok s) as = some t) :
    (∃ s', t = .ok s' ∧ Answered s.log s'.log) ↔
      Lts.Along sessionStep NoSetupThrow (.ok s) as := by
  constructor
  · intro ⟨s', ht, _⟩
    by_contra hC
    obtain ⟨before, a, after, u, v, -, -, -, hbreak, hv, hrest⟩ := Lts.first_break hC h
    cases u with
    | error u => exact hbreak trivial
    | ok u =>
        cases a with
        | command req => exact hbreak trivial
        | pace env now => exact hbreak trivial
        | handle env =>
            simp only [NoSetupThrow, not_forall, not_not, exists_prop] at hbreak
            obtain ⟨req, rest, hq, hthrow⟩ := hbreak
            simp only [sessionStep, hq, Option.some.injEq] at hv
            obtain ⟨w, hw, -⟩ := (handleRequest_spec env req
              ({ u with cmdQueue := rest }.emit (.request req))).1 hthrow
            rw [← hv, handleNext, hw] at hrest
            rw [run_of_error hrest] at ht
            cases ht
  · intro hC
    refine Lts.run_invariant (fun _ _ _ hI hC h => answered_step hI hC h) ?_ hC h
    exact ⟨s, rfl, [], by simp, by simp⟩

/-- A clip of one key frame, its SPS and PPS known. -/
def clip : MediaSource PacketList Unit :=
  PacketList.source
    { sps := [0x67, 0x42, 0x00, 0x1f], pps := [0x68, 0xce], width := 640, height := 480
      durationSecs := 1 }
    [{ streamIndex := 0, pts := 0, dts := 0, key := true, duration := 3600
       data := [0, 0, 0, 1, 0x65, 0x88] }]

/-- A machine with one media file, `/media/a.mp4`. -/
def oneFile : Env (MediaSource PacketList Unit) :=
  { fs :=
      { append := fun root rel => root ++ [47] ++ rel
        weaklyCanonical := id
        relative := fun p base => some (p.drop (base.length + 1))
        isPresent := fun p => p = ascii "/media/a.mp4" }
    openSource := fun p => if p = ascii "/media/a.mp4" then some clip else none
    setupUDP := fun _ _ => some 40000
    stod := fun _ => none
    timestamp := ascii "Thu, 01 Jan 1970 00:00:00 GMT"
    now := 1
    outboxLoad := fun _ => 0 }

def client : Session (MediaSource PacketList Unit) :=
  Session.new (ascii "10.0.0.2") (ascii "/media") (ascii "7") 1 2

def describeRequest (url : String) : RTSPRequest :=
  { method := ascii "DESCRIBE", url := ascii url, version := ascii "RTSP/1.0"
    headers := (∅ : HeaderMap).insert (ascii "cseq") (ascii "2"), body := [] }

def setupRequest (transport : String) : RTSPRequest :=
  { method := ascii "SETUP", url := ascii "rtsp://h/a.mp4/trackID=0", version := ascii "RTSP/1.0"
    headers := ((∅ : HeaderMap).insert (ascii "cseq") (ascii "3")).insert (ascii "transport")
      (ascii transport)
    body := [] }

/-- A request is pushed and handled. -/
def exchange (req : RTSPRequest) : List (SessionAct (MediaSource PacketList Unit)) :=
  [.command req, .handle oneFile]

/-- The states of a run in which a request is pushed and handled and a tick comes later: before
    and after the request is handled, before the tick and after it. -/
def statesAround (before : List (SessionAct (MediaSource PacketList Unit))) (req : RTSPRequest)
    (after : List (SessionAct (MediaSource PacketList Unit))) :
    Option (Handled (MediaSource PacketList Unit) × Handled (MediaSource PacketList Unit) ×
      Handled (MediaSource PacketList Unit) × Handled (MediaSource PacketList Unit)) :=
  (Lts.run sessionStep (.ok client) (before ++ [.command req])).bind fun t =>
    (sessionStep t (.handle oneFile)).bind fun u =>
      (Lts.run sessionStep u after).bind fun v =>
        (sessionStep v (.pace oneFile 1)).map fun w => (t, u, v, w)

/-- The run with a fact about these states that was computed. -/
theorem statesAround_eq {before : List (SessionAct (MediaSource PacketList Unit))}
    {req : RTSPRequest} {after : List (SessionAct (MediaSource PacketList Unit))}
    {P : Session (MediaSource PacketList Unit) → Handled (MediaSource PacketList Unit) →
      Handled (MediaSource PacketList Unit) → Handled (MediaSource PacketList Unit) → Bool}
    (h : (statesAround before req after).map
      (fun (t, u, v, w) => Except.isOk t && P (sessionOf t) u v w) = some true) :
    ∃ s u v w, Lts.run sessionStep (.ok client) (before ++ [.command req]) = some (.ok s) ∧
      sessionStep (.ok s) (.handle oneFile) = some u ∧ Lts.run sessionStep u after = some v ∧
      sessionStep v (.pace oneFile 1) = some w ∧ P s u v w = true := by
  simp only [statesAround, Option.map_eq_some_iff, Option.bind_eq_some_iff] at h
  obtain ⟨_, ⟨t, ht, u, hu, v, hv, w, hw, rfl⟩, hP⟩ := h
  obtain ⟨hok, hP⟩ := Bool.and_eq_true_iff.mp hP
  cases t with
  | error s => cases hok
  | ok s => exact ⟨s, u, v, w, ht, hu, hv, hw, hP⟩

/-- The events of a step. -/
def newEvents (v w : Handled (MediaSource PacketList Unit)) : List Event :=
  (sessionOf w).log.drop (sessionOf v).log.length

theorem answered_iff_describe : ∃ t, Lts.run sessionStep (.ok client)
    (exchange (describeRequest "rtsp://h/a.mp4")) = some t ∧
      ∃ s', t = .ok s' ∧ Answered client.log s'.log := by
  refine ⟨_, rfl, (answered_iff client (exchange (describeRequest "rtsp://h/a.mp4")) _ rfl).mpr ?_⟩
  refine ⟨trivial, fun req rest hq hthrow => ?_, trivial⟩
  cases hq
  exact absurd hthrow.1 (by decide)

/-- A port that is not a number: nothing is answered and the exception leaves the handler. -/
def badPortRun : List (SessionAct (MediaSource PacketList Unit)) :=
  exchange (describeRequest "rtsp://h/a.mp4") ++
    exchange (setupRequest "RTP/AVP;unicast;client_port=x")

theorem badPortRun_throws : ∃ t, Lts.run sessionStep (.ok client) badPortRun = some t ∧
    ¬ ∃ s', t = .ok s' ∧ Answered client.log s'.log := by
  have h : (Lts.run sessionStep (.ok client) badPortRun).map Except.isOk = some false := by
    decide +kernel
  obtain ⟨t, ht, hok⟩ := Option.map_eq_some_iff.mp h
  refine ⟨t, ht, fun ⟨s', hs, _⟩ => ?_⟩
  rw [hs] at hok
  cases hok

end RtspServer
