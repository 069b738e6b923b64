/-
  The session as its client sees it: an abstract machine that knows only the requests, the
  responses and the media packets of a connection, and says which of them may come next. Its
  state is the state of RTSP, whether the last DESCRIBE was answered 200, and which tracks are set
  up. SETUP needs a description, PLAY a set-up video track, PAUSE a playing session; media is
  allowed only while playing, only of a track that is set up and only while there is a
  description, and never between a request and its response.

  `session_follows_protocol`: every log of every run of a session is a run of this machine, and
  the session is where the machine is, but for the end of a Range: the session pauses itself there
  and the client is not told.
-/
import RtspServer.Server.PacerEmits

namespace RtspServer

open ByteString Decimal

variable {M : Type}

/-! ## The abstract machine -/

namespace Protocol

/-- What the client knows. -/
structure View where
  phase : State
  /-- the last DESCRIBE was answered 200 -/
  described : Bool
  /-- the video track is set up -/
  video : Bool
  audio : Bool
  /-- the request that is not answered yet -/
  request : Option RTSPRequest

def start : View :=
  { phase := .init, described := false, video := false, audio := false, request := none }

/-- The status codes that may answer a request. -/
def statuses (req : RTSPRequest) (v : View) : List Int :=
  if req.method = ascii "OPTIONS" then [200]
  else if req.method = ascii "DESCRIBE" then [200, 403, 404, 415]
  else if req.method = ascii "SETUP" then if v.described then [200, 400, 461, 500] else [455]
  else if req.method = ascii "PLAY" then if v.phase = .init then [455] else [200]
  else if req.method = ascii "PAUSE" then if v.phase = .playing then [200, 455] else [455]
  else if req.method = ascii "TEARDOWN" then [200]
  else [501]

/-- What a response with this status changes. -/
def after (req : RTSPRequest) (status : Int) (v : View) : View :=
  if req.method = ascii "DESCRIBE" then { v with described := status = 200 }
  else if status ≠ 200 then v
  else if req.method = ascii "SETUP" then
    match Session.trackOf req.url with
    | .video => { v with phase := .ready, video := true }
    | .audio => { v with audio := true }
  else if req.method = ascii "PLAY" then { v with phase := .playing }
  else if req.method = ascii "PAUSE" then { v with phase := .paused }
  else if req.method = ascii "TEARDOWN" then { v with phase := .init }
  else v

/-- Media of the track may be sent. -/
def Plays (track : Track) (v : View) : Prop :=
  v.phase = .playing ∧ v.described = true ∧ v.video = true ∧ (track = .audio → v.audio = true) ∧
    v.request = none

instance (track : Track) (v : View) : Decidable (Plays track v) :=
  inferInstanceAs (Decidable (_ ∧ _))

/-- Whether the event may come next, and what the client knows then. -/
def step (v : View) : Event → Option View
  | .request req =>
      match v.request with
      | none => some { v with request := some req }
      | some _ => none
  | .response resp =>
      match v.request with
      | some req =>
          let v := { v with request := none }
          if resp.status ∈ statuses req v then some (after req resp.status v) else none
      | none => none
  | .interleaved track _ | .datagram track _ _ | .dropped track _ =>
      if Plays track v then some v else none
  | .sought | .anchored _ _ | .timed _ _ | .sending _ => some v

/-- The session may have reached the end of the Range. -/
def Agrees (w v : View) : Prop := w = v ∨ v.phase = .playing ∧ w = { v with phase := .paused }

/-- Events other than requests and responses do not move the machine; it allows the packets among
    them if it plays their tracks. -/
theorem run_media {v : View} {l : List Event} (hexchange : ∀ e ∈ l, e.isExchange = false)
    (hplays : ∀ e ∈ l, ∀ track, e.packetTrack = some track → Plays track v) :
    Lts.run step v l = some v := by
  induction l with
  | nil => rfl
  | cons e l ih =>
      obtain ⟨hhead, htail⟩ := List.forall_mem_cons.mp hexchange
      obtain ⟨hhead', htail'⟩ := List.forall_mem_cons.mp hplays
      refine Lts.run_cons_of ?_ (ih htail htail')
      cases e with
      | request | response => cases hhead
      | interleaved track | datagram track | dropped track => exact if_pos (hhead' track rfl)
      | sought | anchored | timed | sending => rfl

/-- A status that the session gives in its state is one the client expects. -/
theorem Agrees.statuses {w v : View} (h : Agrees w v) {req : RTSPRequest} {status : Int}
    (hmem : status ∈ statuses req w) : status ∈ statuses req v := by
  rcases h with rfl | ⟨hplaying, rfl⟩
  · exact hmem
  · unfold Protocol.statuses at hmem ⊢
    dsimp only at hmem
    rw [if_neg (by decide : ¬ State.paused = .init),
      if_neg (by decide : ¬ State.paused = .playing)] at hmem
    rw [hplaying, if_neg (by decide : ¬ State.playing = .init), if_pos rfl]
    repeat' split at hmem
    all_goals simp_all

/-- A response leaves them in agreement. -/
theorem Agrees.after {w v : View} (h : Agrees w v) (req : RTSPRequest) (status : Int) :
    Agrees (after req status w) (after req status v) := by
  rcases h with rfl | ⟨hplaying, rfl⟩
  · exact .inl rfl
  · unfold Protocol.after
    repeat' split
    all_goals first | exact .inl rfl | exact .inr ⟨hplaying, rfl⟩

/-- The machine plays what the session plays. -/
theorem Agrees.plays {w v : View} (h : Agrees w v) {track : Track} (hplays : Plays track w) :
    Plays track v := by
  rcases h with rfl | ⟨-, rfl⟩
  · exact hplays
  · cases hplays.1

/-- The end of the Range. -/
theorem Agrees.stopped {w v : View} (h : Agrees w v) (hplaying : w.phase = .playing) :
    Agrees { w with phase := .paused } v := by
  rcases h with rfl | ⟨hphase, rfl⟩
  · exact .inr ⟨hplaying, rfl⟩
  · exact .inr ⟨hphase, rfl⟩

/-- The status codes of each method. -/
theorem statuses_options {req : RTSPRequest} (hm : req.method = ascii "OPTIONS") (v : View) :
    statuses req v = [200] := by
  unfold statuses
  rw [hm]
  rfl

theorem statuses_describe {req : RTSPRequest} (hm : req.method = ascii "DESCRIBE") (v : View) :
    statuses req v = [200, 403, 404, 415] := by
  unfold statuses
  rw [hm]
  rfl

theorem statuses_setup {req : RTSPRequest} (hm : req.method = ascii "SETUP") (v : View) :
    statuses req v = if v.described then [200, 400, 461, 500] else [455] := by
  unfold statuses
  rw [hm]
  rfl

theorem statuses_play {req : RTSPRequest} (hm : req.method = ascii "PLAY") (v : View) :
    statuses req v = if v.phase = .init then [455] else [200] := by
  unfold statuses
  rw [hm]
  rfl

theorem statuses_pause {req : RTSPRequest} (hm : req.method = ascii "PAUSE") (v : View) :
    statuses req v = if v.phase = .playing then [200, 455] else [455] := by
  unfold statuses
  rw [hm]
  rfl

theorem statuses_teardown {req : RTSPRequest} (hm : req.method = ascii "TEARDOWN") (v : View) :
    statuses req v = [200] := by
  unfold statuses
  rw [hm]
  rfl

theorem after_describe {req : RTSPRequest} (hm : req.method = ascii "DESCRIBE") (status : Int)
    (v : View) : after req status v = { v with described := status = 200 } := if_pos hm

/-- An error changes nothing, but that a failed DESCRIBE takes the description away. -/
theorem after_error {req : RTSPRequest} {status : Int} {v : View} (h : status ≠ 200)
    (hdescribe : req.method = ascii "DESCRIBE" → v.described = false) : after req status v = v := by
  unfold after
  split
  · next hm =>
      rw [decide_eq_false h, ← hdescribe hm]
  · rfl

theorem after_setup {req : RTSPRequest} (hm : req.method = ascii "SETUP") (v : View) :
    after req 200 v = match Session.trackOf req.url with
      | .video => { v with phase := .ready, video := true }
      | .audio => { v with audio := true } := by
  unfold after
  rw [hm]
  rfl

theorem after_play {req : RTSPRequest} (hm : req.method = ascii "PLAY") (v : View) :
    after req 200 v = { v with phase := .playing } := by
  unfold after
  rw [hm]
  rfl

theorem after_pause {req : RTSPRequest} (hm : req.method = ascii "PAUSE") (v : View) :
    after req 200 v = { v with phase := .paused } := by
  unfold after
  rw [hm]
  rfl

theorem after_teardown {req : RTSPRequest} (hm : req.method = ascii "TEARDOWN") (v : View) :
    after req 200 v = { v with phase := .init } := by
  unfold after
  rw [hm]
  rfl

theorem after_request {req : RTSPRequest} (status : Int) (v : View) :
    (after req status v).request = v.request := by
  unfold after
  repeat' split
  all_goals rfl

end Protocol

open Protocol

theorem RTSPResponse.status_play (date : Bytes) (cseq : Int) (sessionId range info : Bytes) :
    (RTSPResponse.play date cseq sessionId range info).status = 200 := by
  unfold RTSPResponse.play
  dsimp only
  repeat' split
  all_goals rfl

theorem RTSPResponse.status_ok (date : Bytes) (cseq : Int) (sessionId : Bytes) :
    (RTSPResponse.ok date cseq sessionId).status = 200 := by
  unfold RTSPResponse.ok
  dsimp only
  split <;> rfl

/-! ## The handlers -/

namespace Session

/-- What a session shows of itself between two requests. -/
def viewOf (s : Session M) : View :=
  { phase := s.state, described := s.mediaSource.isSome
    video := s.transportReady, audio := s.audioTransportReady, request := none }

/-- `describe_done_` is set with the source. -/
def Described (s : Session M) : Prop := s.mediaSource.isSome = true → s.describeDone = true

/-- The sequence numbers and sources of the RTP packets to come, of video and of audio. -/
def numbering (s : Session M) : (UInt16 × UInt32) × UInt16 × UInt32 :=
  ((s.rtpSeq, s.ssrc), s.audioRtpSeq, s.audioSsrc)

/-- Before its response a request only repositions the source. -/
structure Before (s s' : Session M) : Prop where
  log : ∃ l, s'.log = s.log ++ l ∧ ∀ e ∈ l, e.isExchange = false ∧ e.packetTrack = none
  view : viewOf s' = viewOf s
  described : s.Described → s'.Described
  counters : numbering s' = numbering s

/-- A request is answered as the machine allows. -/
structure Obeys (req : RTSPRequest) (s s' : Session M) : Prop where
  log : ∃ l resp, s'.log = s.log ++ l ++ [.response resp] ∧
    (∀ e ∈ l, e.isExchange = false ∧ e.packetTrack = none) ∧
    resp.status ∈ statuses req (viewOf s) ∧ viewOf s' = after req resp.status (viewOf s)
  described : s.Described → s'.Described
  counters : numbering s' = numbering s

theorem Described.of_view {s s' : Session M} (h : s.Described) (hview : viewOf s' = viewOf s)
    (hdone : s'.describeDone = s.describeDone) : s'.Described := by
  intro hsome
  rw [hdone]
  exact h ((congrArg View.described hview).symm.trans hsome)

theorem Before.of_same {s s' : Session M} (hlog : s'.log = s.log) (hview : viewOf s' = viewOf s)
    (hdone : s'.describeDone = s.describeDone) (hcounters : numbering s' = numbering s) :
    Before s s' :=
  ⟨⟨[], by rw [hlog, List.append_nil], fun _ he => nomatch he⟩, hview,
    fun h => h.of_view hview hdone, hcounters⟩

theorem Before.refl (s : Session M) : Before s s := .of_same rfl rfl rfl rfl

theorem Before.trans {s t u : Session M} (h : Before s t) (h' : Before t u) : Before s u := by
  obtain ⟨l, hl, hsilent⟩ := h.log
  obtain ⟨l', hl', hsilent'⟩ := h'.log
  refine ⟨⟨l ++ l', by rw [hl', hl, List.append_assoc], fun e he => ?_⟩, h'.view.trans h.view,
    fun hd => h'.described (h.described hd), h'.counters.trans h.counters⟩
  rcases List.mem_append.mp he with he | he
  · exact hsilent e he
  · exact hsilent' e he

/-- The response, with the state it announces. -/
theorem Before.answer {req : RTSPRequest} {s t s' : Session M} (h : Before s t)
    {resp : RTSPResponse} {status : Int} (hlog : s'.log = t.log ++ [.response resp])
    (hresp : resp.status = status) (hmem : status ∈ statuses req (viewOf s))
    (hview : viewOf s' = after req status (viewOf t)) (hdescribed : t.Described → s'.Described)
    (hcounters : numbering s' = numbering t) : Obeys req s s' := by
  obtain ⟨l, hl, hsilent⟩ := h.log
  obtain rfl := hresp
  rw [h.view] at hview
  refine ⟨⟨l, resp, ?_, hsilent, hmem, hview⟩, fun hd => hdescribed (h.described hd),
    hcounters.trans h.counters⟩
  rw [hlog, hl]

theorem Before.error {req : RTSPRequest} {s t : Session M} (h : Before s t) (env : Env M)
    {cseq code : Int} {reason : String} (hcode : code ≠ 200)
    (hmem : code ∈ statuses req (viewOf s))
    (hdescribe : req.method = ascii "DESCRIBE" → (viewOf s).described = false) :
    Obeys req s (t.sendError env cseq code reason) := by
  have hstay : viewOf t = after req code (viewOf t) := by
    rw [h.view]
    exact (after_error hcode hdescribe).symm
  exact h.answer rfl rfl hmem hstay id rfl

theorem before_setChannels (track : Track) (c : Int × Int) (s : Session M) :
    Before s (s.setChannels track c) := by
  cases track <;> exact .of_same rfl rfl rfl rfl

theorem before_setSender (track : Track) (sender : UdpSender) (s : Session M) :
    Before s (s.setSender track sender) := by
  cases track <;> exact .of_same rfl rfl rfl rfl

theorem obeys_setupDone (env : Env M) {req : RTSPRequest} (transport : Bytes) {s t : Session M}
    (hm : req.method = ascii "SETUP") (h : Before s t)
    (hmem : (200 : Int) ∈ statuses req (viewOf s)) :
    Obeys req s ((t.setReady (trackOf req.url)).setupDone env req (trackOf req.url) transport) := by
  have hview := after_setup hm (viewOf t)
  unfold setupDone
  cases htrack : trackOf req.url with
  | video =>
      rw [htrack] at hview
      exact h.answer rfl rfl hmem hview.symm id rfl
  | audio =>
      rw [htrack] at hview
      exact h.answer rfl rfl hmem hview.symm id rfl

theorem obeys_handleOptions (env : Env M) {req : RTSPRequest} (s : Session M)
    (hm : req.method = ascii "OPTIONS") : Obeys req s (s.handleOptions env req) := by
  have hmem : (200 : Int) ∈ statuses req (viewOf s) := by
    rw [statuses_options hm]
    decide
  have hview : viewOf s = after req 200 (viewOf s) := by
    unfold after
    rw [hm]
    rfl
  exact (Before.refl s).answer rfl rfl hmem hview id rfl

/-- The source is opened, or the request is answered with an error. -/
theorem obeys_openMedia (env : Env M) {req : RTSPRequest} {s : Session M}
    (hnone : s.mediaSource = none)
    (hmem : ∀ code ∈ ([403, 404, 415] : List Int), code ∈ statuses req (viewOf s)) :
    (∃ t, openMedia env req.url req.cseq s = (false, t) ∧ Obeys req s t) ∨
      ∃ source, openMedia env req.url req.cseq s = (true, { s with mediaSource := some source }) := by
  have hdescribe : req.method = ascii "DESCRIBE" → (viewOf s).described = false := by
    intro _
    show s.mediaSource.isSome = false
    rw [hnone]
    rfl
  unfold openMedia
  dsimp only
  split
  · exact .inl ⟨_, rfl, (Before.refl s).error env (by decide) (hmem 404 (by decide)) hdescribe⟩
  · split
    · exact .inl ⟨_, rfl, (Before.refl s).error env (by decide) (hmem 403 (by decide)) hdescribe⟩
    · split
      · exact .inl ⟨_, rfl, (Before.refl s).error env (by decide) (hmem 404 (by decide)) hdescribe⟩
      · split
        · have hclosed : Before s { s with mediaSource := none } := by
            refine .of_same rfl ?_ rfl rfl
            rw [← hnone]
          exact .inl ⟨_, rfl, hclosed.error env (by decide) (hmem 415 (by decide)) hdescribe⟩
        · exact .inr ⟨_, rfl⟩

variable [IMediaSource M]

open IMediaSource

theorem obeys_handleDescribe (env : Env M) {req : RTSPRequest} (s : Session M)
    (hm : req.method = ascii "DESCRIBE") : Obeys req s (s.handleDescribe env req) := by
  have hmem : ∀ (v : View), ∀ code ∈ ([200, 403, 404, 415] : List Int), code ∈ statuses req v := by
    intro v code hcode
    rw [statuses_describe hm]
    exact hcode
  -- whatever `described` was before, the response sets it
  have hclosed : ∀ {t : Session M}, Obeys req { s with mediaSource := none } t → Obeys req s t := by
    rintro t ⟨⟨l, resp, hlog, hsilent, hstatus, hview⟩, hdescribed, hcounters⟩
    refine ⟨⟨l, resp, hlog, hsilent, ?_, hview.trans ?_⟩, fun _ => hdescribed nofun, hcounters⟩
    · rw [statuses_describe hm] at hstatus ⊢
      exact hstatus
    · rw [after_describe hm, after_describe hm]
      rfl
  unfold handleDescribe
  rcases obeys_openMedia env (s := { s with mediaSource := none }) rfl
    (fun code hcode => hmem _ code (List.mem_cons_of_mem 200 hcode)) with
    ⟨u, heq, hobeys⟩ | ⟨source, heq⟩
  · rw [heq]
    exact hclosed hobeys
  · rw [heq]
    refine hclosed ((Before.refl _).answer rfl rfl (hmem _ 200 (by decide)) ?_ (fun _ _ => rfl) rfl)
    rw [after_describe hm]
    rfl

omit [IMediaSource M] in
/-- SETUP; an exception leaves the request without an answer. -/
theorem obeys_handleSetup (env : Env M) {req : RTSPRequest} (s : Session M)
    (hm : req.method = ascii "SETUP") (hd : s.Described) :
    (∃ s', s.handleSetup env req = .ok s' ∧ Obeys req s s') ∨
      ∃ s', s.handleSetup env req = .error s' ∧ Before s s' := by
  have hno : req.method = ascii "DESCRIBE" → (viewOf s).described = false :=
    fun h => absurd (hm.symm.trans h) (by decide)
  have hstatuses := statuses_setup hm (viewOf s)
  unfold handleSetup
  split
  · next hguard =>
      have hdescribed : (viewOf s).described = false := by
        show s.mediaSource.isSome = false
        rcases hguard with h | h
        · rw [← Bool.not_eq_true]
          intro hsome
          rw [hd hsome] at h
          cases h
        · rw [Option.isNone_iff_eq_none.mp h]
          rfl
      rw [hdescribed] at hstatuses
      exact .inl ⟨_, rfl, (Before.refl s).error env (by decide) (by rw [hstatuses]; decide) hno⟩
  · next hguard =>
      have hdescribed : (viewOf s).described = true := by
        show s.mediaSource.isSome = true
        rw [← Bool.not_eq_false, Option.isSome_eq_false_iff]
        exact (not_or.mp hguard).2
      have hmem : ∀ code ∈ ([200, 400, 461, 500] : List Int), code ∈ statuses req (viewOf s) := by
        intro code hcode
        rw [hstatuses, hdescribed]
        exact hcode
      dsimp only
      split
      · exact .inl ⟨_, rfl, (Before.refl s).error env (by decide) (hmem 400 (by decide)) hno⟩
      · split
        · have htcp : Before s { s with useTcp := true } := .of_same rfl rfl rfl rfl
          unfold setupTcp
          dsimp only
          split
          · next c _ => exact .inr ⟨_, rfl, htcp.trans (before_setChannels _ c _)⟩
          · next c _ =>
              exact .inl ⟨_, rfl, obeys_setupDone env _ hm (htcp.trans (before_setChannels _ c _))
                (hmem 200 (by decide))⟩
        · have hudp : Before s { s with useTcp := false } := .of_same rfl rfl rfl rfl
          unfold setupUdp
          dsimp only
          split
          · exact .inl ⟨_, rfl, hudp.error env (by decide) (hmem 461 (by decide)) hno⟩
          · split
            · exact .inr ⟨_, rfl, hudp⟩
            · split
              · exact .inl ⟨_, rfl, (hudp.trans (before_setSender _ _ _)).error env (by decide)
                  (hmem 500 (by decide)) hno⟩
              · exact .inl ⟨_, rfl, obeys_setupDone env _ hm (hudp.trans (before_setSender _ _ _))
                  (hmem 200 (by decide))⟩

theorem before_seekAndReset (secs : Rat) (adjust : Bool) (s : Session M) :
    Before s (s.seekAndReset secs adjust) := by
  unfold seekAndReset
  split
  · exact .refl s
  · next source hsource =>
      refine ⟨⟨[.sought], rfl, fun e he => ?_⟩, ?_, fun hd _ => hd (by rw [hsource]; rfl), rfl⟩
      · rw [List.mem_singleton.mp he]
        exact ⟨rfl, rfl⟩
      · show View.mk _ _ _ _ _ = View.mk _ _ _ _ _
        rw [hsource]
        rfl

theorem before_freshPlay (start stop : Rat) (s : Session M) : Before s (s.freshPlay start stop) :=
  (before_seekAndReset start false s).trans (.of_same rfl rfl rfl rfl)

theorem before_rtpInfo (url : Bytes) (s : Session M) : Before s (s.rtpInfo url).2 := by
  unfold rtpInfo
  split
  · exact .refl s
  · next source hsource =>
      refine .of_same rfl ?_ rfl rfl
      show View.mk _ _ _ _ _ = View.mk _ _ _ _ _
      rw [hsource]
      rfl

omit [IMediaSource M] in
theorem before_resumePlay (env : Env M) (s : Session M) : Before s (s.resumePlay env) := by
  unfold resumePlay
  split <;> exact .of_same rfl rfl rfl rfl

theorem obeys_handlePlay (env : Env M) {req : RTSPRequest} (s : Session M)
    (hm : req.method = ascii "PLAY") : Obeys req s (s.handlePlay env req) := by
  have hno : req.method = ascii "DESCRIBE" → (viewOf s).described = false :=
    fun h => absurd (hm.symm.trans h) (by decide)
  have hmem : statuses req (viewOf s) = if s.state = .init then [455] else [200] :=
    statuses_play hm (viewOf s)
  unfold handlePlay
  split
  · next hinit =>
      rw [if_pos hinit] at hmem
      exact (Before.refl s).error env (by decide) (by rw [hmem]; decide) hno
  · next hinit =>
      rw [if_neg hinit] at hmem
      have hdone : ∀ t range info, Before s t → Obeys req s (t.playDone env req range info) :=
        fun t _ _ h => h.answer rfl (RTSPResponse.status_play _ _ _ _ _)
          (by rw [hmem]; exact List.mem_singleton_self _) (after_play hm (viewOf t)).symm id rfl
      dsimp only
      split
      · exact hdone _ _ _ (before_resumePlay env s)
      · split
        · exact hdone _ _ _ (before_seekAndReset _ true s)
        · exact hdone _ _ _ ((before_freshPlay _ _ s).trans (before_rtpInfo _ _))

omit [IMediaSource M] in
theorem obeys_handlePause (env : Env M) {req : RTSPRequest} (s : Session M)
    (hm : req.method = ascii "PAUSE") : Obeys req s (s.handlePause env req) := by
  have hno : req.method = ascii "DESCRIBE" → (viewOf s).described = false :=
    fun h => absurd (hm.symm.trans h) (by decide)
  have hmem : statuses req (viewOf s) = if s.state = .playing then [200, 455] else [455] :=
    statuses_pause hm (viewOf s)
  unfold handlePause
  split
  · next hidle =>
      rw [if_neg hidle] at hmem
      exact (Before.refl s).error env (by decide) (by rw [hmem]; decide) hno
  · next hplaying =>
      rw [if_pos (not_not.mp hplaying)] at hmem
      have hok := RTSPResponse.status_ok env.timestamp req.cseq s.sessionId
      refine (Before.refl s).answer rfl ?_ (by rw [hmem]; decide)
        (after_pause hm (viewOf s)).symm id rfl
      split
      · exact hok
      · exact hok

omit [IMediaSource M] in
theorem obeys_handleTeardown (env : Env M) {req : RTSPRequest} (s : Session M)
    (hm : req.method = ascii "TEARDOWN") : Obeys req s (s.handleTeardown env req) := by
  have hmem : (200 : Int) ∈ statuses req (viewOf s) := by
    rw [statuses_teardown hm]
    decide
  exact (Before.refl s).answer rfl (RTSPResponse.status_ok _ _ _) hmem
    (after_teardown hm (viewOf s)).symm id rfl

theorem obeys_handleRequest (env : Env M) (req : RTSPRequest) {s : Session M} (hd : s.Described) :
    (∃ s', s.handleRequest env req = .ok s' ∧ Obeys req s s') ∨
      ∃ s', s.handleRequest env req = .error s' ∧ Before s s' := by
  unfold handleRequest
  split
  · next hm => exact .inl ⟨_, rfl, obeys_handleOptions env s hm⟩
  · next hoptions =>
      split
      · next hm => exact .inl ⟨_, rfl, obeys_handleDescribe env s hm⟩
      · next hdescribe =>
          split
          · next hm => exact obeys_handleSetup env s hm hd
          · next hsetup =>
              split
              · next hm => exact .inl ⟨_, rfl, obeys_handlePlay env s hm⟩
              · next hplay =>
                  split
                  · next hm => exact .inl ⟨_, rfl, obeys_handlePause env s hm⟩
                  · next hpause =>
                      split
                      · next hm => exact .inl ⟨_, rfl, obeys_handleTeardown env s hm⟩
                      · next hteardown =>
                          have hmem : (501 : Int) ∈ statuses req (viewOf s) := by
                            unfold statuses
                            rw [if_neg hoptions, if_neg hdescribe, if_neg hsetup, if_neg hplay,
                              if_neg hpause, if_neg hteardown]
                            exact List.mem_singleton_self _
                          exact .inl ⟨_, rfl, (Before.refl s).error env (by decide) hmem
                            fun h => absurd h hdescribe⟩

/-! ## The pacing -/

/-- The packets of a frame: audio only when that track is set up. -/
theorem deliver_tracks (env : Env M) (now : Int) (source : M) (vp : VideoPacket) (s : Session M) :
    ∃ tail, (s.deliver env now source vp).log = s.log ++ .sending vp :: tail ∧
      ∀ e ∈ tail, e.isExchange = false ∧
        (e.packetTrack = some .audio → s.audioTransportReady = true) := by
  obtain ⟨loads, close, tail, heq, htail⟩ := sendFrame_spec env source vp s
  have hvideo : ∀ e ∈ tail, e.isExchange = false ∧ e.packetTrack = some .video := by
    intro e he
    have htrack := packetTrack_of_map htail e he
    exact ⟨isExchange_of_packetTrack htrack, htrack⟩
  obtain ⟨aseq, loads', close', tail', held, n, heq', htail'⟩ :=
    paceAudio_spec env now source ((s.sendFrame env source vp).trackFrame source vp)
  unfold deliver
  by_cases hready : s.audioTransportReady = true
  · refine ⟨tail ++ tail', ?_, fun e he => ⟨?_, fun _ => hready⟩⟩
    · rw [heq', heq]
      simp only [trackFrame, List.append_assoc, List.cons_append]
    · rcases List.mem_append.mp he with he | he
      · exact (hvideo e he).1
      · exact isExchange_of_packetTrack (htail' e he)
  · refine ⟨tail, ?_, fun e he => ⟨(hvideo e he).1, fun haudio => ?_⟩⟩
    · unfold paceAudio
      rw [heq]
      dsimp only [trackFrame]
      rw [Bool.of_not_eq_true hready]
      rfl
    · rw [(hvideo e he).2] at haudio
      cases haudio

theorem view_deliver (env : Env M) (now : Int) (source : M) (vp : VideoPacket) (s : Session M) :
    viewOf (s.deliver env now source vp) = viewOf s ∧
      (s.deliver env now source vp).describeDone = s.describeDone := by
  obtain ⟨tail, -, -, seq, loads, close, aseq, held, n, heq⟩ := deliver_spec env now source vp s
  rw [heq]
  refine ⟨?_, rfl⟩
  show View.mk _ _ _ _ _ = View.mk _ _ _ _ _
  rw [Option.isSome_map]
  rfl

theorem holds_view {now : Int} {source source' : M} {vp : VideoPacket} {s t : Session M}
    (h : Holds now source s vp source' t) (hsource : s.mediaSource = some source) :
    viewOf t = viewOf s ∧ t.describeDone = s.describeDone := by
  have hsome : s.mediaSource.isSome = true := by
    rw [hsource]
    rfl
  cases h with
  | kept => exact ⟨rfl, rfl⟩
  | read =>
      refine ⟨?_, rfl⟩
      show View.mk _ _ _ _ _ = View.mk _ _ _ _ _
      rw [hsome]
      rfl

/-- A tick that ends without a frame pauses the session or leaves it as it is. -/
theorem passes_view {now : Int} {source : M} {s t : Session M} (h : Passes now source s t)
    (hsource : s.mediaSource = some source) :
    (viewOf t = viewOf s ∨ viewOf t = { viewOf s with phase := .paused }) ∧
      t.describeDone = s.describeDone := by
  have hsome : s.mediaSource.isSome = true := by
    rw [hsource]
    rfl
  have hview : viewOf s = View.mk s.state true s.transportReady s.audioTransportReady none := by
    rw [← hsome]
    rfl
  rw [hview]
  cases h with
  | gated =>
      refine ⟨.inl ?_, rfl⟩
      rw [← hview]
      rfl
  | ended => exact ⟨.inl rfl, rfl⟩
  | skipped => exact ⟨.inl rfl, rfl⟩
  | stopped => exact ⟨.inr rfl, rfl⟩

/-- A tick sends nothing unless the machine plays, and pauses at most. -/
structure Streams (s s' : Session M) : Prop where
  log : ∃ l, s'.log = s.log ++ l ∧ (∀ e ∈ l, e.isExchange = false) ∧
    ∀ e ∈ l, ∀ track, e.packetTrack = some track → Plays track (viewOf s)
  view : viewOf s' = viewOf s ∨
    s.state = .playing ∧ viewOf s' = { viewOf s with phase := .paused }
  described : s.Described → s'.Described

omit [IMediaSource M] in
theorem plays_of_streaming {s : Session M} {track : Track} (h : s.Streaming)
    (haudio : track = .audio → s.audioTransportReady = true) : Plays track (viewOf s) :=
  ⟨h.1, h.2.1, h.2.2, haudio, rfl⟩

/-- A tick that sends a frame. -/
theorem streams_deliver (env : Env M) (now : Int) {source source' : M} {vp : VideoPacket}
    {s t u : Session M} (marks : List Event) (hs : s.Streaming)
    (hsource : s.mediaSource = some source) (hh : Holds now source s vp source' t)
    (hlog : u.log = t.log ++ marks)
    (hmarks : ∀ e ∈ marks, e.isExchange = false ∧ e.packetTrack = none)
    (hview : viewOf u = viewOf t) (hdone : u.describeDone = t.describeDone) :
    Streams s (u.deliver env now source' vp) := by
  obtain ⟨hview', hdone'⟩ := holds_view hh hsource
  obtain ⟨hdeliver, hkept⟩ := view_deliver env now source' vp u
  have hsame : viewOf u = viewOf s := hview.trans hview'
  obtain ⟨tail, htail, hpackets⟩ := deliver_tracks env now source' vp u
  have haudio : u.audioTransportReady = s.audioTransportReady := congrArg View.audio hsame
  refine ⟨⟨marks ++ .sending vp :: tail, ?_, fun e he => ?_, fun e he track htrack => ?_⟩,
    .inl (hdeliver.trans hsame),
    fun h => h.of_view (hdeliver.trans hsame) (hkept.trans (hdone.trans hdone'))⟩
  · rw [htail, hlog, hh.log, List.append_assoc]
  · rcases List.mem_append.mp he with he | he
    · exact (hmarks e he).1
    · rcases List.mem_cons.mp he with rfl | he
      · rfl
      · exact (hpackets e he).1
  · refine plays_of_streaming hs fun hτ => ?_
    obtain rfl := hτ
    rcases List.mem_append.mp he with he | he
    · rw [(hmarks e he).2] at htrack
      cases htrack
    · rcases List.mem_cons.mp he with rfl | he
      · cases htrack
      · exact haudio.symm.trans ((hpackets e he).2 htrack)

theorem streams_pace (env : Env M) (now : Int) (s : Session M) : Streams s (s.pace env now) := by
  have h := ticks_pace env now s
  generalize s.pace env now = s' at h ⊢
  have hquiet : ∀ {t : Session M}, t.log = s.log ∨ t.log = s.log ++ [.sought] →
      ∃ l, t.log = s.log ++ l ∧ (∀ e ∈ l, e.isExchange = false) ∧
        ∀ e ∈ l, ∀ track, e.packetTrack = some track → Plays track (viewOf s) := by
    rintro t (hlog | hlog)
    · exact ⟨[], by rw [hlog, List.append_nil], fun _ he => absurd he List.not_mem_nil,
        fun _ he => absurd he List.not_mem_nil⟩
    · refine ⟨[.sought], hlog, fun e he => ?_, fun e he track htrack => ?_⟩
      · rw [List.mem_singleton.mp he]
        rfl
      · rw [List.mem_singleton.mp he] at htrack
        cases htrack
  cases h with
  | idle hs =>
      obtain ⟨pause, heq⟩ := notStreaming_eq now s
      rw [heq]
      exact ⟨hquiet (.inl rfl), .inl rfl, fun hd => hd⟩
  | passes hs hsource hp =>
      obtain ⟨hview, hdone⟩ := passes_view hp hsource
      refine ⟨hquiet hp.log, ?_, fun hd _ => hdone.trans (hd hs.2.1)⟩
      rcases hview with hview | hview
      · exact .inl hview
      · exact .inr ⟨hs.1, hview⟩
  | @waits source source' vp t hs hsource hh =>
      obtain ⟨hview, hdone⟩ := holds_view hh hsource
      refine ⟨⟨[.timed vp (t.mediaTicks vp)], ?_, fun e he => ?_, fun e he track htrack => ?_⟩,
        .inl hview, fun hd _ => hdone.trans (hd hs.2.1)⟩
      · rw [← hh.log]
        rfl
      · rw [List.mem_singleton.mp he]
        rfl
      · rw [List.mem_singleton.mp he] at htrack
        cases htrack
  | @starts source source' vp t hs hsource hh =>
      refine streams_deliver env now [.anchored vp now, .timed vp 0] hs hsource hh
        (List.append_assoc ..) (fun e he => ?_) rfl rfl
      rcases List.mem_pair.mp he with rfl | rfl <;> exact ⟨rfl, rfl⟩
  | @sends source source' vp t hs hsource hh =>
      refine streams_deliver env now [.timed vp (t.mediaTicks vp)] hs hsource hh
        rfl (fun e he => ?_) rfl rfl
      rw [List.mem_singleton.mp he]
      exact ⟨rfl, rfl⟩

end Session

open Session

/-! ## Runs -/

/-- The log of the session is a run of the machine to where the session is. Only an exception
    leaves a request without an answer. -/
def Follows (t : Handled M) : Prop :=
  ∃ v, Lts.run Protocol.step Protocol.start (sessionOf t).log = some v ∧
    Agrees (viewOf (sessionOf t)) { v with request := none } ∧ (Except.isOk t → v.request = none)

/-- The machine takes the events of a request that is answered. -/
theorem follows_answered {v : View} {req : RTSPRequest} {s s' : Session M} (h : Obeys req s s')
    {log : List Event} (hlog : s.log = log ++ [.request req])
    (hrun : Lts.run Protocol.step Protocol.start log = some v) (hnone : v.request = none)
    (hagrees : Agrees (viewOf s) v) : Follows (.ok s' : Handled M) := by
  obtain ⟨l, resp, hlog', hsilent, hmem, hview⟩ := h.log
  have hrequest : Protocol.step v (.request req) = some { v with request := some req } := by
    simp only [Protocol.step, hnone]
  have hanswered : { v with request := none } = v := by rw [← hnone]
  have hresponse : Protocol.step { v with request := some req } (.response resp) =
      some (after req resp.status v) := by
    simp only [Protocol.step]
    rw [hanswered]
    exact if_pos (hagrees.statuses hmem)
  have hidle : (after req resp.status v).request = none := (after_request _ v).trans hnone
  refine ⟨after req resp.status v, ?_, ?_, fun _ => hidle⟩
  · show Lts.run _ _ s'.log = _
    rw [hlog', hlog]
    exact Lts.run_snoc (Lts.run_append.mpr ⟨_, Lts.run_snoc hrun hrequest,
      run_media (fun e he => (hsilent e he).1) fun e he track htrack => by
        rw [(hsilent e he).2] at htrack
        cases htrack⟩) hresponse
  · show Agrees (viewOf s') _
    rw [hview, ← hidle]
    exact hagrees.after req resp.status

/-- And of one whose handler throws. -/
theorem follows_thrown {v : View} {req : RTSPRequest} {s s' : Session M} (h : Before s s')
    {log : List Event} (hlog : s.log = log ++ [.request req])
    (hrun : Lts.run Protocol.step Protocol.start log = some v) (hnone : v.request = none)
    (hagrees : Agrees (viewOf s) v) : Follows (.error s' : Handled M) := by
  obtain ⟨l, hlog', hsilent⟩ := h.log
  have hrequest : Protocol.step v (.request req) = some { v with request := some req } := by
    simp only [Protocol.step, hnone]
  refine ⟨{ v with request := some req }, ?_, ?_, fun hok => by cases hok⟩
  · show Lts.run _ _ s'.log = _
    rw [hlog', hlog]
    exact Lts.run_append.mpr ⟨_, Lts.run_snoc hrun hrequest,
      run_media (fun e he => (hsilent e he).1) fun e he track htrack => by
        rw [(hsilent e he).2] at htrack
        cases htrack⟩
  · show Agrees (viewOf s') { v with request := none }
    rw [h.view, ← hnone]
    exact hagrees

theorem follows_step [IMediaSource M] {t t' : Handled M} {a : SessionAct M}
    (h : Follows t ∧ (sessionOf t).Described) (hs : sessionStep t a = some t') :
    Follows t' ∧ (sessionOf t').Described := by
  cases t with
  | error s => cases hs
  | ok s =>
      obtain ⟨⟨v, hrun, hagrees, hidle⟩, hd⟩ := h
      have hnone : v.request = none := hidle rfl
      have hagrees : Agrees (viewOf s) v := by
        rw [← hnone] at hagrees
        exact hagrees
      cases a with
      | command req =>
          obtain rfl := Option.some.inj hs
          exact ⟨⟨v, hrun, by rw [← hnone]; exact hagrees, fun _ => hnone⟩, hd⟩
      | handle env =>
          simp only [sessionStep] at hs
          split at hs
          · cases hs
          · next req rest hq =>
              obtain rfl := Option.some.inj hs
              have hd' : ({ s with cmdQueue := rest }.emit (.request req)).Described := hd
              rcases obeys_handleRequest env req hd' with ⟨s', hres, hobeys⟩ | ⟨s', hres, hbefore⟩
              · rw [handleNext, hres]
                exact ⟨follows_answered hobeys rfl hrun hnone hagrees, hobeys.described hd'⟩
              · rw [handleNext, hres]
                exact ⟨follows_thrown hbefore rfl hrun hnone hagrees, hbefore.described hd'⟩
      | pace env now =>
          obtain rfl := Option.some.inj hs
          obtain ⟨⟨l, hlog, hexchange, hplays⟩, hview, hdescribed⟩ := streams_pace env now s
          refine ⟨⟨v, ?_, ?_, fun _ => hnone⟩, hdescribed hd⟩
          · show Lts.run _ _ (s.pace env now).log = _
            rw [hlog]
            refine Lts.run_append.mpr ⟨v, hrun, run_media hexchange fun e he track htrack => ?_⟩
            exact hagrees.plays (hplays e he track htrack)
          · show Agrees (viewOf (s.pace env now)) { v with request := none }
            rw [← hnone]
            rcases hview with hview | ⟨hplaying, hview⟩
            · rw [hview]
              exact hagrees
            · rw [hview]
              exact hagrees.stopped hplaying

/-- **The client's view.** In every run of a session, what it receives and sends is a run of the
    RTSP machine: each request is answered at once and with a status that the machine allows in its
    state, and media is sent only while the machine plays that track. The session is where the
    machine is, or it is PAUSED at the end of the Range while the machine still plays. -/
theorem session_follows_protocol [IMediaSource M] (clientIp mediaRoot sessionId : Bytes)
    (ssrc audioSsrc : UInt32) {as : List (SessionAct M)} {t : Handled M}
    (h : Lts.run sessionStep (.ok (Session.new clientIp mediaRoot sessionId ssrc audioSsrc)) as =
      some t) :
    ∃ v, Lts.run Protocol.step Protocol.start (sessionOf t).log = some v ∧
      Agrees (viewOf (sessionOf t)) { v with request := none } ∧
      (Except.isOk t → v.request = none) := by
  refine (Lts.run_stable (I := fun t => Follows t ∧ (sessionOf t).Described)
    (fun _ _ _ hI hs => follows_step hI hs) ⟨⟨Protocol.start, rfl, .inl rfl, fun _ => rfl⟩, ?_⟩ h).1
  intro hsome
  cases hsome

/-- The exchanges of a client that plays the clip, then ticks up to the end of its first pass. -/
theorem session_follows_protocol_clip : ∃ t v,
    Lts.run sessionStep (.ok client) (playRun ++ [.pace oneFile 1, .pace oneFile 2]) = some t ∧
      videoPackets (sessionOf t).log ≠ [] ∧
      Lts.run Protocol.step Protocol.start (sessionOf t).log = some v ∧
      Agrees (viewOf (sessionOf t)) { v with request := none } := by
  have hrun : (Lts.run sessionStep (.ok client) (playRun ++ [.pace oneFile 1, .pace oneFile 2])).map
      (fun t => decide (videoPackets (sessionOf t).log ≠ [])) = some true := by
    decide +kernel
  obtain ⟨t, ht, hsent⟩ := Option.map_eq_some_iff.mp hrun
  obtain ⟨v, hlog, hagrees, -⟩ := session_follows_protocol _ _ _ _ _ ht
  exact ⟨t, v, ht, of_decide_eq_true hsent, hlog, hagrees⟩

end RtspServer
