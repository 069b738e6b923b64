/-
  The source of the frames. DESCRIBE replaces `media_source_` in every state and leaves the rest
  of the pacing as it is: the frame that is held, `first_frame_` and the clock are those of the
  source before. A tick that finds `first_frame_` set drops the held frame and waits for a key
  frame, so nothing is wrong as long as a seek comes first; otherwise the old frame is sent, and
  the new source starts anywhere and on the old clock.

  * `Descends` and `Offers`: what a session can make of a source, and the frames it can get.
  * `described_frames`: after a DESCRIBE answered 200 the video packets carry NAL units of the
    new source, and the first frame is a key frame that anchors the clock, in every run in which
    the ticks up to the first frame or seek find `first_frame_` set.
-/
import RtspServer.Server.PacerEmits
import RtspServer.Server.PassFrames
import RtspServer.Server.RestartOnKey

namespace RtspServer

open ByteString Session IMediaSource H264Packetizer

variable {M : Type} [IMediaSource M]

/-! ## Frames of a source -/

/-- What the calls of a session make of a source. -/
inductive Descends (m : M) : M → Prop where
  | refl : Descends m m
  | read {m' : M} (h : Descends m m') : Descends m (readPacket m').2
  | readAudio {m' : M} (h : Descends m m') : Descends m (readAudioPacket m').2
  | seek {m' : M} (h : Descends m m') (offset : UInt32) : Descends m (IMediaSource.seek offset m')
  | seekToSeconds {m' : M} (h : Descends m m') (secs : Rat) :
      Descends m (IMediaSource.seekToSeconds secs m')
  | adjust {m' : M} (h : Descends m m') (delta : UInt32) : Descends m (adjustRTPOffset delta m')
  | peek {m' : M} (h : Descends m m') : Descends m (peekNextVideoRTPTimestamp m').2

/-- The source returns this frame at some time. -/
def Offers (m : M) (vp : VideoPacket) : Prop := ∃ m', Descends m m' ∧ (readPacket m').1 = some vp

/-- The NAL unit belongs to a frame of the source, or is its SPS or PPS. -/
def NalOf (m : M) (nal : Bytes) : Prop :=
  (∃ vp, Offers m vp ∧ nal ∈ vp.nals) ∨
    ∃ m', Descends m m' ∧ (nal = (streamInfo m').sps ∨ nal = (streamInfo m').pps)

/-- The RTP packet carries a NAL unit of the source, or a fragment of one. -/
def CarriesNalOf (m : M) (pkt : Bytes) : Prop :=
  ∃ nal, NalOf m nal ∧ ∃ p ∈ packetize nal kMtu, ∃ seq ts ssrc marker,
    pkt = RTPPacket.build p.payload (toByte payloadType) seq ts ssrc marker

theorem Descends.readAudios {m m' : M} (h : Descends m m') (n : Nat) :
    Descends m ((fun x => (readAudioPacket x).2)^[n] m') := by
  induction n generalizing m' with
  | zero => exact h
  | succ n ih => exact ih h.readAudio

theorem Descends.sought {m m' : M} (h : Descends m m') (secs : Rat) (adjust : Bool)
    (s : Session M) : Descends m (s.soughtSource secs adjust m') := by
  unfold soughtSource
  dsimp only
  split
  · exact (h.seekToSeconds secs).adjust _
  · exact h.seekToSeconds secs

omit [IMediaSource M] in
theorem mem_markNal {p : Bytes × Bool} {lastNal : Bool} {ps : List Packet}
    (h : p ∈ markNal lastNal ps) : ∃ q ∈ ps, p.1 = q.payload := by
  induction ps with
  | nil => cases h
  | cons q rest ih =>
      rw [markNal] at h
      rcases List.mem_cons.mp h with rfl | h
      · exact ⟨q, List.mem_cons_self, rfl⟩
      · obtain ⟨q', hq', heq⟩ := ih h
        exact ⟨q', List.mem_cons_of_mem q hq', heq⟩

omit [IMediaSource M] in
theorem mem_framePayloads {p : Bytes × Bool} {nals : List Bytes} (h : p ∈ framePayloads nals) :
    ∃ nal ∈ nals, ∃ q ∈ packetize nal kMtu, p.1 = q.payload := by
  induction nals with
  | nil => cases h
  | cons nal rest ih =>
      rw [framePayloads] at h
      rcases List.mem_append.mp h with h | h
      · exact ⟨nal, List.mem_cons_self, mem_markNal h⟩
      · obtain ⟨nal', hnal', hq⟩ := ih h
        exact ⟨nal', List.mem_cons_of_mem nal hnal', hq⟩

/-- The NAL units that are sent for a frame. -/
theorem nalOf_nalList {m m' : M} {vp : VideoPacket} {nal : Bytes} (hvp : Offers m vp)
    (hm : Descends m m') (h : nal ∈ nalList (streamInfo m') vp) : NalOf m nal := by
  unfold nalList at h
  rcases List.mem_append.mp h with h | h
  · refine .inr ⟨m', hm, ?_⟩
    split at h
    · have := List.mem_of_mem_filter h
      simpa using this
    · cases h
  · exact .inl ⟨vp, hvp, List.mem_of_mem_filter h⟩

theorem carriesNalOf_rtpPackets {m m' : M} {vp : VideoPacket} {ssrc : UInt32} {seq : UInt16}
    {pkt : Bytes} (hvp : Offers m vp) (hm : Descends m m')
    (h : pkt ∈ rtpPackets vp.rtpTimestamp ssrc seq (framePayloads (nalList (streamInfo m') vp))) :
    CarriesNalOf m pkt := by
  unfold rtpPackets at h
  obtain ⟨i, hi, rfl⟩ := List.mem_mapIdx.mp h
  obtain ⟨nal, hnal, q, hq, heq⟩ := mem_framePayloads (List.getElem_mem hi)
  exact ⟨nal, nalOf_nalList hvp hm hnal, q, hq, _, _, _, _, by rw [heq]⟩

/-- The video packets of a tick up to steps 8 and 9, where nothing is sent before them. -/
theorem carriesNalOf_deliver (env : Env M) (now : Int) {m source : M} {vp : VideoPacket}
    {s₀ s : Session M} (before : List Event) {l : List Event} (hvp : Offers m vp)
    (hm : Descends m source)
    (hbefore : s.log = s₀.log ++ before) (hnone : ∀ e ∈ before, e.videoPacket = none)
    (hlog : (s.deliver env now source vp).log = s₀.log ++ l) :
    ∀ e ∈ l, ∀ pkt, e.videoPacket = some pkt → CarriesNalOf m pkt := by
  intro e he pkt hpkt
  obtain ⟨loads, close, tail, heq, htail⟩ := sendFrame_spec env source vp s
  obtain ⟨aseq, loads', close', tail', held, n, heq', htail'⟩ :=
    paceAudio_spec env now source ((s.sendFrame env source vp).trackFrame source vp)
  have hevents : l = before ++ .sending vp :: (tail ++ tail') := by
    rw [deliver, heq', heq] at hlog
    have hlog : (s.log ++ .sending vp :: tail) ++ tail' = s₀.log ++ l := hlog
    rw [hbefore, List.append_assoc, List.append_assoc] at hlog
    exact (List.append_cancel_left hlog).symm
  rw [hevents] at he
  rcases List.mem_append.mp he with he | he
  · rw [hnone e he] at hpkt
    cases hpkt
  rcases List.mem_cons.mp he with rfl | he
  · cases hpkt
  rcases List.mem_append.mp he with he | he
  · have hmem : some pkt ∈ (rtpPackets vp.rtpTimestamp s.ssrc s.rtpSeq
        (framePayloads (nalList (streamInfo source) vp))).map some := by
      rw [← htail, ← hpkt]
      exact List.mem_map_of_mem he
    obtain ⟨pkt', hpkt', heq⟩ := List.mem_map.mp hmem
    obtain rfl := Option.some.inj heq
    exact carriesNalOf_rtpPackets hvp hm hpkt'
  · have haudio := htail' e he
    rw [packetTrack_of_videoPacket hpkt] at haudio
    cases haudio

/-! ## Since the DESCRIBE -/

/-- The event is a seek, or a frame is sent. -/
def Event.settles : Event → Bool
  | .sought | .sending _ => true
  | _ => false

/-- Since the DESCRIBE there was a seek, or a frame was sent. -/
def Settled (pass : List Event) : Prop := ∃ e ∈ pass, e.settles = true

omit [IMediaSource M] in
theorem not_settled_nil : ¬ Settled [] := by
  rintro ⟨e, he, -⟩
  cases he

omit [IMediaSource M] in
theorem settled_of_append {pass l : List Event} (hl : ∀ e ∈ l, e.settles = false)
    (h : Settled (pass ++ l)) : Settled pass := by
  obtain ⟨e, he, hsettles⟩ := h
  rcases List.mem_append.mp he with he | he
  · exact ⟨e, he, hsettles⟩
  · rw [hl e he] at hsettles
    cases hsettles

/-- The session has the source `m`, or what became of it; `pass` are the events since it was
    opened. Up to the first frame or seek the frame that is held may be an old one. -/
structure Described (m : M) (pass : List Event) (s : Session M) : Prop where
  source : ∃ m', s.mediaSource = some m' ∧ Descends m m'
  held : Settled pass → ∀ vp, s.pendingVp = some vp → Offers m vp
  first : Settled pass → sentFrames pass = [] → s.firstFrame = true

/-- Nothing is held and the clock has to be anchored: the events do not matter. -/
theorem described_of_restarted {m m' : M} {pass : List Event} {s : Session M}
    (hsource : s.mediaSource = some m') (hm : Descends m m') (hr : s.Restarted) :
    Described m pass s := by
  obtain ⟨hff, hvp, -⟩ := hr
  refine ⟨⟨m', hsource, hm⟩, fun _ vp h => ?_, fun _ _ => hff⟩
  rw [hvp] at h
  cases h

/-- A step without a frame or a seek that keeps the held frame or drops it. -/
theorem Described.still {m m' : M} {pass l : List Event} {s s' : Session M}
    (h : Described m pass s) (hl : ∀ e ∈ l, e.settles = false)
    (hsource : s'.mediaSource = some m') (hm : Descends m m')
    (hvp : ∀ vp, s'.pendingVp = some vp → s.pendingVp = some vp)
    (hff : s'.firstFrame = s.firstFrame) : Described m (pass ++ l) s' := by
  refine ⟨⟨m', hsource, hm⟩, fun hset vp hheld => ?_, fun hset hnone => ?_⟩
  · exact h.held (settled_of_append hl hset) vp (hvp vp hheld)
  · rw [sentFrames_append] at hnone
    exact hff.trans (h.first (settled_of_append hl hset) (List.append_eq_nil_iff.mp hnone).1)

/-! ## Steps -/

omit [IMediaSource M] in
theorem settles_of_isExchange {e : Event} (h : e.isExchange = true) : e.settles = false := by
  cases e <;> first | rfl | cases h

/-- A request other than DESCRIBE makes something of the source. -/
theorem Serves.descends {m m' : M} {req : RTSPRequest} {s s' : Session M} (h : Serves req s s')
    (hsource : s.mediaSource = some m') (hm : Descends m m') :
    ∃ m'', s'.mediaSource = some m'' ∧ Descends m m'' := by
  have hseek : ∀ secs adjust, ∃ m'', (s.seekAndReset secs adjust).mediaSource = some m'' ∧
      Descends m m'' := by
    intro secs adjust
    rcases seekAndReset_eq secs adjust s with ⟨hnone, -⟩ | ⟨source, hs, heq⟩
    · rw [hsource] at hnone
      cases hnone
    · obtain rfl := Option.some.inj (hsource.symm.trans hs)
      rw [heq]
      exact ⟨_, rfl, hm.sought secs adjust s⟩
  cases h with
  | aside ha => exact ⟨m', (congrArg Stream.source ha.stream).trans hsource, hm⟩
  | scales _ _ _ _ ha =>
      obtain ⟨m'', hs, hm⟩ := hseek s.lastKeyframeNpt true
      exact ⟨m'', (congrArg Stream.source ha.stream).trans hs, hm⟩
  | plays start stop _ _ _ _ ha =>
      obtain ⟨m'', hs, hm⟩ := hseek start false
      rw [rtpInfo_eq] at ha
      refine ⟨_, (congrArg Stream.source ha.stream).trans ?_, hm.peek⟩
      exact congrArg (Option.map _) hs

theorem described_handleNext (env : Env M) {req : RTSPRequest} (rest : List RTSPRequest) {m : M}
    {pass l : List Event} {s : Session M} (hI : Described m pass s)
    (hdescribe : req.method ≠ ascii "DESCRIBE")
    (hlog : (sessionOf (s.handleNext env req rest)).log = s.log ++ l) :
    Described m (pass ++ l) (sessionOf (s.handleNext env req rest)) := by
  obtain ⟨l', hl'⟩ := handleNext_log env req rest s
  obtain rfl : l = .request req :: l' := List.append_cancel_left (hlog.symm.trans hl')
  obtain ⟨hserves, hlog'⟩ := handleNext_serves env rest hdescribe hl'
  obtain ⟨m', hsource, hm⟩ := hI.source
  obtain ⟨m'', hsource', hm'⟩ := hserves.descends hsource hm
  rcases hserves.sought_or hlog' with ⟨ha, -⟩ | ⟨hnone, -⟩ | ⟨-, hr⟩
  · refine hI.still (fun e he => ?_) hsource' hm'
      (fun vp h => (congrArg Stream.pendingVp ha.stream).symm.trans h)
      (congrArg Stream.firstFrame ha.stream)
    obtain ⟨tail, htail, hex⟩ := ha.log
    rcases List.mem_cons.mp he with rfl | he
    · rfl
    · rw [List.append_cancel_left (hlog'.symm.trans htail)] at he
      exact settles_of_isExchange (hex e he)
  · have hnone : s.mediaSource = none := hnone
    rw [hsource] at hnone
    cases hnone
  · exact described_of_restarted hsource' hm' hr

/-- The frame that a tick holds is one of the source, once the old one is gone. -/
theorem Holds.offers {now : Int} {m source source' : M} {vp : VideoPacket} {pass : List Event}
    {s t : Session M} (h : Holds now source s vp source' t) (hI : Described m pass s)
    (hsource : s.mediaSource = some source) (hC : s.firstFrame = true ∨ Settled pass) :
    Offers m vp ∧ Descends m source' := by
  obtain ⟨m', hm', hm⟩ := hI.source
  obtain rfl := Option.some.inj (hsource.symm.trans hm')
  cases h with
  | kept _ _ _ _ hff hheld =>
      rcases hC with hC | hC
      · rw [hff] at hC
        cases hC
      · exact ⟨hI.held hC vp hheld, hm⟩
  | read _ _ _ _ _ _ hread =>
      refine ⟨⟨source, hm, congrArg Prod.fst hread⟩, ?_⟩
      have := hm.read
      rw [hread] at this
      exact this

/-- Steps 8 and 9 leave no frame held. -/
theorem described_deliver (env : Env M) (now : Int) {m source : M} {vp : VideoPacket}
    {pass l : List Event} {s : Session M} (hsource : s.mediaSource = some source)
    (hm : Descends m source) (hsent : .sending vp ∈ l) :
    Described m (pass ++ l) (s.deliver env now source vp) := by
  obtain ⟨tail, -, -, seq, loads, close, aseq, held, n, hdeliver⟩ :=
    deliver_spec env now source vp s
  rw [hdeliver, hsource]
  refine ⟨⟨_, rfl, hm.readAudios n⟩, fun _ vp h => (by cases h), fun _ hnone => ?_⟩
  have hmem : vp ∈ sentFrames (pass ++ l) :=
    List.mem_filterMap.mpr ⟨_, List.mem_append_right pass hsent, rfl⟩
  rw [hnone] at hmem
  cases hmem

theorem Descends.of_read {m m' m'' : M} {r : Option VideoPacket} (h : Descends m m')
    (hread : readPacket m' = (r, m'')) : Descends m m'' := by
  have := h.read
  rwa [hread] at this

theorem described_passes {now : Int} {m source : M} {pass l : List Event} {s t : Session M}
    (h : Passes now source s t) (hI : Described m pass s) (hsource : s.mediaSource = some source)
    (hm : Descends m source) (hlog : t.log = s.log ++ l) : Described m (pass ++ l) t := by
  have hstill : ∀ {m' : M} {t : Session M}, t.mediaSource = some m' → Descends m m' →
      t.pendingVp = none → t.firstFrame = s.firstFrame → t.log = s.log ++ l → t.log = s.log →
      Described m (pass ++ l) t := by
    intro m' t hs hm' hvp hff hlog hsame
    obtain rfl := List.self_eq_append_right.mp (hsame.symm.trans hlog)
    exact hI.still (fun _ he => nomatch he) hs hm' (fun vp h => by rw [hvp] at h; cases h) hff
  cases h with
  | gated => exact hstill hsource hm rfl rfl hlog rfl
  | ended _ _ source' _ _ hread =>
      have hm' : Descends m source' := hm.of_read hread
      exact described_of_restarted rfl (hm'.seek _) ⟨rfl, rfl, rfl, _, rfl⟩
  | skipped _ _ _ _ _ _ hread => exact hstill rfl (hm.of_read hread) rfl rfl hlog rfl
  | stopped _ _ _ _ _ _ hread => exact hstill rfl (hm.of_read hread) rfl rfl hlog rfl

/-- A tick keeps the invariant, and its video packets are of the source. -/
theorem described_ticks {env : Env M} {now : Int} {m : M} {pass l : List Event} {s s' : Session M}
    (h : Ticks env now s s') (hI : Described m pass s)
    (hC : s.Streaming → s.firstFrame = true ∨ Settled pass) (hlog : s'.log = s.log ++ l) :
    Described m (pass ++ l) s' ∧ ∀ e ∈ l, ∀ pkt, e.videoPacket = some pkt → CarriesNalOf m pkt := by
  obtain ⟨m', hsource, hm⟩ := hI.source
  cases h with
  | idle =>
      obtain ⟨pause, heq⟩ := notStreaming_eq now s
      rw [heq] at hlog ⊢
      rw [List.self_eq_append_right.mp hlog]
      refine ⟨hI.still (fun _ he => nomatch he) hsource hm (fun vp h => ?_) rfl,
        fun _ he => nomatch he⟩
      have h : (if s.state = .paused then s.pendingVp else none) = some vp := h
      split at h
      · exact h
      · cases h
  | @passes source _ _ hs hp =>
      obtain rfl := Option.some.inj (hsource.symm.trans hs)
      refine ⟨described_passes hp hI hsource hm hlog, fun e he pkt hpkt => ?_⟩
      rcases hp.log with hlog' | hlog'
      · rw [List.self_eq_append_right.mp (hlog'.symm.trans hlog)] at he
        cases he
      · rw [List.append_cancel_left (hlog.symm.trans hlog')] at he
        rw [List.mem_singleton.mp he] at hpkt
        cases hpkt
  | @waits source source' vp t hs hs' hh hff =>
      obtain ⟨hvp, hm'⟩ := hh.offers hI hs' (hC hs)
      obtain ⟨hsource', hheld, -, hfirst⟩ := hh.facts hs'
      obtain rfl : l = [.timed vp (t.mediaTicks vp)] := by
        change t.log ++ _ = _ at hlog
        rw [hh.log] at hlog
        exact (List.append_cancel_left hlog).symm
      refine ⟨⟨⟨source', hsource', hm'⟩, fun _ vp' h => ?_, fun hset hnone => ?_⟩,
        fun e he pkt hpkt => ?_⟩
      · obtain rfl := Option.some.inj (hheld.symm.trans h)
        exact hvp
      · rw [sentFrames_append] at hnone
        refine hfirst.trans (hI.first (settled_of_append (fun e he => ?_) hset)
          (List.append_eq_nil_iff.mp hnone).1)
        rw [List.mem_singleton.mp he]
        rfl
      · rw [List.mem_singleton.mp he] at hpkt
        cases hpkt
  | @starts source source' vp t hs hs' hh hff =>
      obtain ⟨hvp, hm'⟩ := hh.offers hI hs' (hC hs)
      obtain ⟨hsource', -⟩ := hh.facts hs'
      obtain ⟨packets, hlog', -⟩ := starts_log env now source' vp t
      rw [hh.log] at hlog'
      obtain rfl := List.append_cancel_left (hlog.symm.trans hlog')
      refine ⟨described_deliver env now hsource' hm' (by simp), ?_⟩
      refine carriesNalOf_deliver env now [.anchored vp now, .timed vp 0] hvp hm' ?_
        (by simp [Event.videoPacket]) hlog'
      change (t.log ++ [_]) ++ [_] = _
      rw [hh.log, List.append_assoc]
      rfl
  | @sends source source' vp t hs hs' hh hff =>
      obtain ⟨hvp, hm'⟩ := hh.offers hI hs' (hC hs)
      obtain ⟨hsource', -⟩ := hh.facts hs'
      obtain ⟨packets, hlog', -⟩ := sends_log env now source' vp t
      rw [hh.log] at hlog'
      obtain rfl := List.append_cancel_left (hlog.symm.trans hlog')
      refine ⟨described_deliver env now hsource' hm' (by simp), ?_⟩
      refine carriesNalOf_deliver env now [.timed vp (t.mediaTicks vp)] hvp hm' ?_
        (by simp [Event.videoPacket]) hlog'
      exact congrArg (· ++ _) hh.log

/-- Up to the first frame or seek after these events, the ticks that stream find `first_frame_`
    set. -/
def AnchorsNext (before : List Event) : Handled M → SessionAct M → Prop
  | .ok s, .pace _ _ => s.Streaming → s.firstFrame = true ∨ Settled (s.log.drop before.length)
  | _, _ => True

instance (pass : List Event) : Decidable (Settled pass) :=
  inferInstanceAs (Decidable (∃ e ∈ pass, e.settles = true))

instance (before : List Event) :
    ∀ (t : Handled M) (a : SessionAct M), Decidable (AnchorsNext before t a)
  | .ok s, .pace _ _ => inferInstanceAs (Decidable
      (s.Streaming → s.firstFrame = true ∨ Settled (s.log.drop before.length)))
  | .ok _, .command _ => isTrue trivial
  | .ok _, .handle _ => isTrue trivial
  | .error _, _ => isTrue trivial

/-- No DESCRIBE is handled. -/
def NoDescribe : Handled M → SessionAct M → Prop :=
  OnRequest fun req _ => req.method ≠ ascii "DESCRIBE"

instance (t : Handled M) (a : SessionAct M) : Decidable (NoDescribe t a) :=
  inferInstanceAs (Decidable (OnRequest _ t a))

/-- A step keeps the invariant, and its video packets are of the source. -/
theorem described_step {m : M} {before pass l : List Event} {t t' : Handled M} {a : SessionAct M}
    (hI : Described m pass (sessionOf t)) (hpass : (sessionOf t).log = before ++ pass)
    (hC : NoDescribe t a ∧ AnchorsNext before t a) (h : sessionStep t a = some t')
    (hlog : (sessionOf t').log = (sessionOf t).log ++ l) :
    Described m (pass ++ l) (sessionOf t') ∧
      ∀ e ∈ l, ∀ pkt, e.videoPacket = some pkt → CarriesNalOf m pkt := by
  cases t with
  | error s => cases h
  | ok s =>
      cases a with
      | command req =>
          obtain rfl := Option.some.inj h
          rw [List.self_eq_append_right.mp hlog, List.append_nil]
          exact ⟨⟨hI.source, hI.held, hI.first⟩, fun _ he => nomatch he⟩
      | handle env =>
          obtain ⟨req, rest, hq, rfl⟩ := handle_cases h
          have hdescribe : req.method ≠ ascii "DESCRIBE" := hC.1 req (by rw [hq]; rfl)
          refine ⟨described_handleNext env rest hI hdescribe hlog, fun e he pkt hpkt => ?_⟩
          have hnone := handleNext_noPackets env req rest hlog e he
          rw [packetTrack_of_videoPacket hpkt] at hnone
          cases hnone
      | pace env now =>
          obtain rfl := Option.some.inj h
          refine described_ticks (ticks_pace env now s) hI (fun hs => ?_) hlog
          have hnext := hC.2 hs
          rw [show s.log = before ++ pass from hpass, List.drop_left] at hnext
          exact hnext

/-! ## Runs -/

omit [IMediaSource M] in
theorem openMedia_ok (env : Env M) (url : Bytes) (cseq : Int) (s : Session M) :
    (∃ path source, env.openSource path = some source ∧
      openMedia env url cseq s = (true, { s with mediaSource := some source })) ∨
    ∃ code reason source, code ≠ 200 ∧
      openMedia env url cseq s =
        (false, { s.sendError env cseq code reason with mediaSource := source }) := by
  unfold openMedia
  dsimp only
  split
  · exact .inr ⟨404, "Not Found", s.mediaSource, by decide, rfl⟩
  split
  · exact .inr ⟨403, "Forbidden", s.mediaSource, by decide, rfl⟩
  split
  · exact .inr ⟨404, "Not Found", s.mediaSource, by decide, rfl⟩
  split
  · exact .inr ⟨415, "Unsupported Media Type", none, by decide, rfl⟩
  · next source hopen => exact .inl ⟨_, source, hopen, rfl⟩

/-- A DESCRIBE answered 200 has opened its source. -/
theorem source_of_describe {env : Env M} {req : RTSPRequest} {s : Session M} {resp : RTSPResponse}
    (hlog : (s.handleDescribe env req).log = s.log ++ [.response resp]) (hok : resp.status = 200) :
    ∃ path source, env.openSource path = some source ∧
      (s.handleDescribe env req).mediaSource = some source := by
  unfold handleDescribe at hlog ⊢
  rcases openMedia_ok env req.url req.cseq { s with mediaSource := none } with
    ⟨path, source, hopen, heq⟩ | ⟨code, reason, source, hcode, heq⟩
  · rw [heq]
    exact ⟨path, source, hopen, rfl⟩
  · rw [heq] at hlog
    have hresp : [Event.response (RTSPResponse.error env.timestamp req.cseq code (ascii reason))] =
        [.response resp] := List.append_cancel_left hlog
    simp only [List.cons.injEq, Event.response.injEq, and_true] at hresp
    rw [← hresp] at hok
    exact absurd hok hcode

/-- The first frame after the DESCRIBE. -/
theorem startsOn_step {m : M} {before pass l : List Event} {t t' : Handled M} {a : SessionAct M}
    {vp : VideoPacket} (hI : Described m pass (sessionOf t))
    (hpass : (sessionOf t).log = before ++ pass) (hC : AnchorsNext before t a)
    (h : sessionStep t a = some t') (hlog : (sessionOf t').log = (sessionOf t).log ++ l)
    (hnone : sentFrames pass = []) (hl : .sending vp ∈ l) :
    ∃ env now, a = .pace env now ∧ StartsOn now vp l (sessionOf t') := by
  cases t with
  | error s => cases h
  | ok s =>
      cases a with
      | command req =>
          obtain rfl := Option.some.inj h
          rw [List.self_eq_append_right.mp hlog] at hl
          cases hl
      | handle env =>
          obtain ⟨req, rest, hq, rfl⟩ := handle_cases h
          obtain ⟨l', hl', hquiet⟩ := (quiet_handleRequest env req
            ({ s with cmdQueue := rest }.emit (.request req))).log
          obtain rfl : l = .request req :: l' := by
            have hsame := hlog.symm.trans hl'
            rw [emit, List.append_assoc] at hsame
            exact List.append_cancel_left hsame
          rcases List.mem_cons.mp hl with hl | hl
          · cases hl
          · cases hquiet _ hl
      | pace env now =>
          obtain rfl := Option.some.inj h
          have hs : s.Streaming := by
            by_contra hno
            rw [List.self_eq_append_right.mp (((emits_pace env now s).2 hno).symm.trans hlog)] at hl
            cases hl
          have hfirst : s.firstFrame = true := by
            have hnext := hC hs
            rw [show s.log = before ++ pass from hpass, List.drop_left] at hnext
            rcases hnext with hff | hset
            · exact hff
            · exact hI.first hset hnone
          exact ⟨env, now, rfl, startsOn_of_first (ticks_pace env now s) hlog hl hfirst⟩

/-- **The frames are those of the described source**, over every run from any state in which a
    DESCRIBE is answered 200: up to the next DESCRIBE every video packet carries a NAL unit of
    the source it opened, and the first frame that is sent is a key frame on which the clock is
    anchored, when the ticks that stream before the first frame or seek find `first_frame_`
    set. -/
theorem described_frames (s : Session M) (env : Env M) (req : RTSPRequest)
    (rest : List RTSPRequest) (resp : RTSPResponse) (u v w : Handled M)
    (as : List (SessionAct M)) (a : SessionAct M) (l : List Event)
    (hq : s.cmdQueue = req :: rest) (hdescribe : req.method = ascii "DESCRIBE")
    (hu : sessionStep (.ok s) (.handle env) = some u)
    (hanswer : (sessionOf u).log = s.log ++ [.request req, .response resp])
    (hok : resp.status = 200) (hv : Lts.run sessionStep u as = some v)
    (hw : sessionStep v a = some w) (hlog : (sessionOf w).log = (sessionOf v).log ++ l)
    (hnext : Lts.Along sessionStep NoDescribe u (as ++ [a]))
    (hanchor : Lts.Along sessionStep (AnchorsNext (sessionOf u).log) u (as ++ [a])) :
    ∃ path source, env.openSource path = some source ∧ (sessionOf u).mediaSource = some source ∧
      (∀ e ∈ l, ∀ pkt, e.videoPacket = some pkt → CarriesNalOf source pkt) ∧
      (sentFrames ((sessionOf v).log.drop (sessionOf u).log.length) = [] →
        ∀ vp, .sending vp ∈ l →
          ∃ env now, a = .pace env now ∧ StartsOn now vp l (sessionOf w)) := by
  obtain ⟨path, source, hopen, hsource⟩ : ∃ path source, env.openSource path = some source ∧
      (sessionOf u).mediaSource = some source := by
    have hu' : u = .ok (({ s with cmdQueue := rest }.emit (.request req)).handleDescribe env req) := by
      simp only [sessionStep, hq, Option.some.injEq] at hu
      rw [← hu, handleNext, handleRequest_describe env _ hdescribe]
    rw [hu'] at hanswer ⊢
    exact source_of_describe (hanswer.trans (List.append_assoc s.log [.request req] _).symm) hok
  have hstart : Described source [] (sessionOf u) :=
    ⟨⟨source, hsource, .refl⟩, fun h => absurd h not_settled_nil, fun h => absurd h not_settled_nil⟩
  have hC := Lts.along_and hnext hanchor
  obtain ⟨pass, hpass, hI⟩ : ∃ pass, (sessionOf v).log = (sessionOf u).log ++ pass ∧
      Described source pass (sessionOf v) := by
    refine Lts.run_invariant (I := fun t => ∃ pass, (sessionOf t).log = (sessionOf u).log ++ pass ∧
      Described source pass (sessionOf t)) ?_ ⟨[], (List.append_nil _).symm, hstart⟩
      (Lts.along_append hv hC).1 hv
    rintro t b t' ⟨pass, hpass, hI⟩ hCb hb
    obtain ⟨l', hl'⟩ := log_step hb
    exact ⟨pass ++ l', by rw [hl', hpass, List.append_assoc],
      (described_step hI hpass hCb hb hl').1⟩
  have hlast := (Lts.along_append hv hC).2.1
  refine ⟨path, source, hopen, hsource, (described_step hI hpass hlast hw hlog).2, ?_⟩
  rw [hpass, List.drop_left]
  exact fun hnone vp hl => startsOn_step hI hpass hlast.2 hw hlog hnone hl

/-- The answer to a DESCRIBE of the clip. -/
def clipAnswer : RTSPResponse :=
  RTSPResponse.describe oneFile.timestamp 2
    (SDPBuilder.build (streamInfo clip) (ascii "0.0.0.0") (streamName (ascii "rtsp://h/a.mp4"))
      (ascii "rtsp://h/a.mp4") payloadType (audioInfo clip) audioPayloadType)
    (ascii "rtsp://h/a.mp4/")

/-- The DESCRIBE of the clip is answered 200, and no other one follows. -/
def DescribesClip (s : Session (MediaSource PacketList Unit))
    (after : List (SessionAct (MediaSource PacketList Unit)))
    (u v w : Handled (MediaSource PacketList Unit)) : Prop :=
  s.cmdQueue = [describeRequest "rtsp://h/a.mp4"] ∧
    (sessionOf u).log =
      s.log ++ [.request (describeRequest "rtsp://h/a.mp4"), .response clipAnswer] ∧
    clipAnswer.status = 200 ∧ (sessionOf w).log = (sessionOf v).log ++ newEvents v w ∧
    Lts.Along sessionStep NoDescribe u (after ++ [.pace oneFile 1]) ∧
    sentFrames ((sessionOf v).log.drop (sessionOf u).log.length) = [] ∧
    .sending clipFrame ∈ newEvents v w

instance (s : Session (MediaSource PacketList Unit))
    (after : List (SessionAct (MediaSource PacketList Unit)))
    (u v w : Handled (MediaSource PacketList Unit)) : Decidable (DescribesClip s after u v w) :=
  inferInstanceAs (Decidable (_ ∧ _))

/-- SETUP over TCP and PLAY. -/
def setupAndPlay : List (SessionAct (MediaSource PacketList Unit)) :=
  exchange (setupRequest "RTP/AVP/TCP;unicast;interleaved=0-1") ++ exchange playRequest

theorem described_frames_clip : ∃ s u v w,
    Lts.run sessionStep (.ok client) [.command (describeRequest "rtsp://h/a.mp4")] = some (.ok s) ∧
      sessionStep (.ok s) (.handle oneFile) = some u ∧
      Lts.run sessionStep u setupAndPlay = some v ∧ sessionStep v (.pace oneFile 1) = some w ∧
      DescribesClip s setupAndPlay u v w ∧
      ∃ path source, oneFile.openSource path = some source ∧
        (∀ e ∈ newEvents v w, ∀ pkt, e.videoPacket = some pkt → CarriesNalOf source pkt) ∧
        ∃ now, StartsOn now clipFrame (newEvents v w) (sessionOf w) := by
  obtain ⟨s, u, v, w, hs, hu, hv, hw, hP⟩ := statesAround_eq (P := fun s u v w => decide (
      DescribesClip s setupAndPlay u v w ∧
        Lts.Along sessionStep (AnchorsNext (sessionOf u).log) u
          (setupAndPlay ++ [.pace oneFile 1])))
    (show (statesAround [] (describeRequest "rtsp://h/a.mp4") setupAndPlay).map _ = _ by
      decide +kernel)
  obtain ⟨hdescribes, hanchor⟩ := of_decide_eq_true hP
  have ⟨hq, hanswer, hok, hlog, hnext, hnone, hsend⟩ := hdescribes
  obtain ⟨path, source, hopen, -, hcarries, hstarts⟩ := described_frames s oneFile _ []
    clipAnswer u v w _ _ _ hq rfl hu hanswer hok hv hw hlog hnext hanchor
  obtain ⟨_, now, -, hstarts⟩ := hstarts hnone clipFrame hsend
  exact ⟨s, u, v, w, hs, hu, hv, hw, hdescribes, path, source, hopen, hcarries, now, hstarts⟩

/-- The clip plays, and a DESCRIBE opens it again: the next tick sends the first frame of the new
    source without setting the clock from it. -/
theorem redescribed_on_old_clock : ∃ s u v w,
    Lts.run sessionStep (.ok client) (playRun ++ [.pace oneFile 1,
        .command (describeRequest "rtsp://h/a.mp4")]) = some (.ok s) ∧
      sessionStep (.ok s) (.handle oneFile) = some u ∧ Lts.run sessionStep u [] = some v ∧
      sessionStep v (.pace oneFile 1) = some w ∧ DescribesClip s [] u v w ∧
      ¬ ∃ now, StartsOn now clipFrame (newEvents v w) (sessionOf w) := by
  obtain ⟨s, u, v, w, hs, hu, hv, hw, hP⟩ := statesAround_eq (P := fun s u v w => decide (
      DescribesClip s [] u v w ∧ (newEvents v w).head? = some (.timed clipFrame 0)))
    (show (statesAround (playRun ++ [.pace oneFile 1]) (describeRequest "rtsp://h/a.mp4") []).map _
      = _ by decide +kernel)
  obtain ⟨hdescribes, hhead⟩ := of_decide_eq_true hP
  rw [List.append_assoc] at hs
  refine ⟨s, u, v, w, hs, hu, hv, hw, hdescribes, fun ⟨now, hstarts⟩ => ?_⟩
  obtain ⟨packets, hevents, -⟩ := hstarts.events
  rw [hevents] at hhead
  cases hhead

end RtspServer
