/-
  The frames of a pass. From a seek to the next one the session reads its source and sends what
  it read: the video frames from the first key frame on, those without NAL units left out, and
  the audio packets that are not empty. A frame that is not due is held, over ticks and pauses.

  `Reads m vs aps m'` says that calls of `readPacket` and `readAudioPacket` lead from the source
  `m` to `m'` and return these packets. `InOrder` is the invariant of a pass: what was sent,
  followed by what is held, is what was read. `frames_in_order` is read off it.
-/
import RtspServer.Server.Schedule
import RtspServer.Server.SessionMoves

namespace RtspServer

open ByteString Session IMediaSource

variable {M : Type} [IMediaSource M]

/-! ## Reading a source -/

/-- The source is read: these frames and audio packets are returned. -/
inductive Reads : M → List VideoPacket → List AudioPacket → M → Prop where
  | refl (m : M) : Reads m [] [] m
  | video {m m' m'' : M} {vs : List VideoPacket} {aps : List AudioPacket} {vp : VideoPacket}
      (h : Reads m vs aps m') (hread : readPacket m' = (some vp, m'')) :
      Reads m (vs ++ [vp]) aps m''
  | audio {m m' m'' : M} {vs : List VideoPacket} {aps : List AudioPacket} {ap : AudioPacket}
      (h : Reads m vs aps m') (hread : readAudioPacket m' = (some ap, m'')) :
      Reads m vs (aps ++ [ap]) m''
  /-- no audio packet is queued -/
  | noAudio {m m' m'' : M} {vs : List VideoPacket} {aps : List AudioPacket}
      (h : Reads m vs aps m') (hread : readAudioPacket m' = (none, m'')) : Reads m vs aps m''

theorem Reads.trans {m m' m'' : M} {vs vs' : List VideoPacket} {aps aps' : List AudioPacket}
    (h : Reads m vs aps m') (h' : Reads m' vs' aps' m'') :
    Reads m (vs ++ vs') (aps ++ aps') m'' := by
  induction h' with
  | refl => simpa using h
  | video _ hread ih =>
      rw [← List.append_assoc]
      exact ih.video hread
  | audio _ hread ih =>
      rw [← List.append_assoc]
      exact ih.audio hread
  | noAudio _ hread ih => exact ih.noAudio hread

/-- The frames that are to be sent of those read after a seek. -/
def playable (vs : List VideoPacket) : List VideoPacket :=
  (vs.filter fun vp => vp.nals ≠ []).dropWhile fun vp => !vp.isKeyFrame

/-- The audio packets that are to be sent. -/
def audible (aps : List AudioPacket) : List AudioPacket := aps.filter fun ap => ap.data ≠ []

section

omit [IMediaSource M]

theorem playable_skip {vs : List VideoPacket} {vp : VideoPacket}
    (h : vp.nals = [] ∨ playable vs = [] ∧ vp.isKeyFrame = false) :
    playable (vs ++ [vp]) = playable vs := by
  unfold playable at h ⊢
  by_cases hnals : vp.nals = []
  · simp [List.filter_append, hnals]
  · obtain ⟨hempty, hkey⟩ := h.resolve_left hnals
    rw [List.filter_append, List.dropWhile_append, hempty]
    simp [hnals, hkey]

theorem playable_next {vs : List VideoPacket} {vp : VideoPacket} (hnals : vp.nals ≠ [])
    (h : playable vs = [] → vp.isKeyFrame = true) : playable (vs ++ [vp]) = playable vs ++ [vp] := by
  unfold playable at h ⊢
  rw [List.filter_append, List.dropWhile_append]
  split
  · next hempty =>
      have hnil := List.isEmpty_iff.mp hempty
      rw [hnil]
      simp [hnals, h hnil]
  · simp [hnals]

end

/-! ## What is sent -/

/-- The frames that were sent. -/
def sentFrames (log : List Event) : List VideoPacket :=
  log.filterMap fun e => match e with
    | .sending vp => some vp
    | _ => none

/-- The audio packet that an event is about. -/
def Event.audioPacket : Event → Option Bytes
  | .interleaved .audio frame => some (frame.drop 4)
  | .datagram .audio _ rtp | .dropped .audio rtp => some rtp
  | _ => none

/-- The audio packets a session has built. -/
def audioPackets (log : List Event) : List Bytes := log.filterMap Event.audioPacket

/-- The RTP packets of these audio packets, numbered from `seq` on. -/
def audioRtp (ssrc : UInt32) (seq : UInt16) (aps : List AudioPacket) : List Bytes :=
  aps.mapIdx fun i ap =>
    RTPPacket.build (audioPayload ap.data) (toByte audioPayloadType) (seq + UInt16.ofNat i)
      ap.rtpTimestamp ssrc true

theorem sentFrames_append (l l' : List Event) :
    sentFrames (l ++ l') = sentFrames l ++ sentFrames l' :=
  List.filterMap_append ..

theorem audioPackets_append (l l' : List Event) :
    audioPackets (l ++ l') = audioPackets l ++ audioPackets l' :=
  List.filterMap_append ..

theorem audible_append (l l' : List AudioPacket) : audible (l ++ l') = audible l ++ audible l' :=
  List.filter_append ..

theorem audioRtp_append (ssrc : UInt32) (seq : UInt16) (l l' : List AudioPacket) :
    audioRtp ssrc seq (l ++ l') =
      audioRtp ssrc seq l ++ audioRtp ssrc (seq + UInt16.ofNat l.length) l' := by
  unfold audioRtp
  rw [List.mapIdx_append]
  congr 2
  funext i ap
  rw [UInt16.ofNat_add, UInt16.add_comm (UInt16.ofNat i), UInt16.add_assoc]

/-! ## The audio of a tick -/

/-- The audio part of a tick: it takes the packet it held and reads further ones; those it is done
    with are sent, and the one that is not due is held. -/
structure PlaysAudio (s : Session M) (read done : List AudioPacket) (s' : Session M) : Prop where
  source : ∃ m m', s.mediaSource = some m ∧ s'.mediaSource = some m' ∧ Reads m [] read m'
  queue : s.pendingAp.toList ++ read = done ++ s'.pendingAp.toList
  seq : s'.audioRtpSeq = s.audioRtpSeq + UInt16.ofNat (audible done).length
  ssrc : s'.audioSsrc = s.audioSsrc
  log : ∃ tail, s'.log = s.log ++ tail ∧
    audioPackets tail = audioRtp s.audioSsrc s.audioRtpSeq (audible done)

theorem PlaysAudio.refl {s : Session M} {m : M} (h : s.mediaSource = some m) :
    PlaysAudio s [] [] s :=
  ⟨⟨m, m, h, h, .refl m⟩, by simp, by simp [audible], rfl, [], (List.append_nil _).symm, rfl⟩

theorem PlaysAudio.trans {s t u : Session M} {read read' done done' : List AudioPacket}
    (h : PlaysAudio s read done t) (h' : PlaysAudio t read' done' u) :
    PlaysAudio s (read ++ read') (done ++ done') u := by
  obtain ⟨m, m', hm, hm', hreads⟩ := h.source
  obtain ⟨n, n', hn, hn', hreads'⟩ := h'.source
  obtain ⟨tail, hlog, htail⟩ := h.log
  obtain ⟨tail', hlog', htail'⟩ := h'.log
  obtain rfl := Option.some.inj (hm'.symm.trans hn)
  refine ⟨⟨m, n', hm, hn', hreads.trans hreads'⟩, ?_, ?_, h'.ssrc.trans h.ssrc, tail ++ tail', ?_, ?_⟩
  · rw [← List.append_assoc, h.queue, List.append_assoc, h'.queue, List.append_assoc]
  · rw [h'.seq, h.seq, audible_append, List.length_append, UInt16.ofNat_add, UInt16.add_assoc]
  · rw [hlog', hlog, List.append_assoc]
  · rw [audioPackets_append, htail, htail', h.ssrc, h.seq, audible_append, audioRtp_append]

omit [IMediaSource M] in
/-- One packet is sent unless it is empty, wherever it goes. -/
theorem sendOneAudio_eq (env : Env M) (ap : AudioPacket) (s : Session M) :
    ∃ loads close tail, s.sendOneAudio env ap =
        { s with
          audioRtpSeq := s.audioRtpSeq + UInt16.ofNat (audible [ap]).length, loads := loads
          closeAfterWrite := close, log := s.log ++ tail } ∧
      audioPackets tail = audioRtp s.audioSsrc s.audioRtpSeq (audible [ap]) := by
  unfold sendOneAudio
  by_cases hdata : ap.data = []
  · rw [if_pos hdata]
    refine ⟨s.loads, s.closeAfterWrite, [], ?_, ?_⟩
    · simp [audible, hdata]
    · simp [audible, hdata, audioRtp, audioPackets]
  · have hone : audible [ap] = [ap] := by simp [audible, hdata]
    rw [if_neg hdata, hone]
    unfold sendAudioRTP pushTCPFrame sendDatagram
    dsimp only
    repeat' split
    all_goals
      refine ⟨_, _, _, rfl, ?_⟩
      simp [audioRtp, audioPackets, Event.audioPacket, tcpFrame]

/-- The held packet is sent. -/
theorem playsAudio_held (env : Env M) {ap : AudioPacket} {s : Session M} {m : M}
    (hm : s.mediaSource = some m) (hheld : s.pendingAp = some ap) :
    PlaysAudio s [] [ap] { s.sendOneAudio env ap with pendingAp := none } := by
  obtain ⟨loads, close, tail, heq, htail⟩ := sendOneAudio_eq env ap s
  rw [heq]
  exact ⟨⟨m, m, hm, hm, .refl m⟩, by rw [hheld]; rfl, rfl, rfl, tail, rfl, htail⟩

/-- A packet is read and sent. -/
theorem playsAudio_read (env : Env M) {ap : AudioPacket} {s : Session M} {m m' : M}
    (hm : s.mediaSource = some m) (hheld : s.pendingAp = none)
    (hread : readAudioPacket m = (some ap, m')) :
    PlaysAudio s [ap] [ap] ({ s with mediaSource := some m' }.sendOneAudio env ap) := by
  obtain ⟨loads, close, tail, heq, htail⟩ :=
    sendOneAudio_eq env ap { s with mediaSource := some m' }
  rw [heq]
  refine ⟨⟨m, m', hm, rfl, (Reads.refl m).audio hread⟩, ?_, rfl, rfl, tail, rfl, htail⟩
  change s.pendingAp.toList ++ [ap] = [ap] ++ s.pendingAp.toList
  rw [hheld]
  rfl

/-- A packet is read and held. -/
theorem playsAudio_hold {ap : AudioPacket} {s : Session M} {m m' : M}
    (hm : s.mediaSource = some m) (hheld : s.pendingAp = none)
    (hread : readAudioPacket m = (some ap, m')) :
    PlaysAudio s [ap] [] { s with mediaSource := some m', pendingAp := some ap } :=
  ⟨⟨m, m', hm, rfl, (Reads.refl m).audio hread⟩, by rw [hheld]; rfl, by simp [audible], rfl, [],
    (List.append_nil _).symm, rfl⟩

/-- Nothing is left to read. -/
theorem playsAudio_none {s : Session M} {m m' : M} (hm : s.mediaSource = some m)
    (hread : readAudioPacket m = (none, m')) :
    PlaysAudio s [] [] { s with mediaSource := some m' } :=
  ⟨⟨m, m', hm, rfl, (Reads.refl m).noAudio hread⟩, by simp, by simp [audible], rfl, [],
    (List.append_nil _).symm, rfl⟩

theorem playsAudio_sendQueuedAudio (env : Env M) (now rate : Int) (fuel : Nat) {s : Session M}
    {m : M} (hm : s.mediaSource = some m) (hheld : s.pendingAp = none) :
    ∃ read done, PlaysAudio s read done (s.sendQueuedAudio env now rate fuel) := by
  induction fuel generalizing s m with
  | zero => exact ⟨[], [], .refl hm⟩
  | succ fuel ih =>
      rw [sendQueuedAudio, hm]
      dsimp only
      split
      · next m' hread => exact ⟨[], [], playsAudio_none hm hread⟩
      · next ap m' hread =>
          split
          · have hone := playsAudio_read env hm hheld hread
            obtain ⟨_, m'', -, hm'', -⟩ := hone.source
            have hheld' : ({ s with mediaSource := some m' }.sendOneAudio env ap).pendingAp = none := by
              obtain ⟨_, _, _, heq, -⟩ := sendOneAudio_eq env ap { s with mediaSource := some m' }
              rw [heq]
              exact hheld
            obtain ⟨read, done, hrest⟩ := ih hm'' hheld'
            exact ⟨_, _, hone.trans hrest⟩
          · exact ⟨[ap], [], playsAudio_hold hm hheld hread⟩

/-- Step 9. -/
theorem playsAudio_paceAudio (env : Env M) (now : Int) (source : M) {s : Session M} {m : M}
    (hm : s.mediaSource = some m) :
    ∃ read done, PlaysAudio s read done (s.paceAudio env now source) := by
  have hsend : ∀ rate, ∃ done, PlaysAudio s [] done (s.sendHeldAudio env now rate) := by
    intro rate
    unfold sendHeldAudio
    split
    · exact ⟨[], .refl hm⟩
    · next ap hap =>
        split
        · exact ⟨[ap], playsAudio_held env hm hap⟩
        · exact ⟨[], .refl hm⟩
  unfold paceAudio
  dsimp only
  split
  · obtain ⟨done, hdone⟩ := hsend (audioInfo source).sampleRate
    obtain ⟨_, m', -, hm', -⟩ := hdone.source
    split
    · next hnone =>
        obtain ⟨read, done', hrest⟩ := playsAudio_sendQueuedAudio env now (audioInfo source).sampleRate
          (audioQueued source + 1) hm' hnone
        exact ⟨_, _, hdone.trans hrest⟩
    · exact ⟨[], done, hdone⟩
  · exact ⟨[], [], .refl hm⟩

/-- Step 8: no audio. -/
theorem playsAudio_sendFrame (env : Env M) (source : M) (vp : VideoPacket) {s : Session M} {m : M}
    (hm : s.mediaSource = some m) :
    PlaysAudio s [] [] ((s.sendFrame env source vp).trackFrame source vp) := by
  obtain ⟨loads, close, tail, heq, htail⟩ := sendFrame_spec env source vp s
  rw [heq]
  refine ⟨⟨m, m, hm, hm, .refl m⟩, by simp [trackFrame], by simp [trackFrame, audible], rfl,
    .sending vp :: tail, rfl, ?_⟩
  refine List.filterMap_eq_nil_iff.mpr fun e he => ?_
  rcases List.mem_cons.mp he with rfl | he
  · rfl
  · have hvideo := packetTrack_of_map htail e he
    unfold Event.audioPacket
    split
    · cases hvideo
    · cases hvideo
    · cases hvideo
    · rfl

theorem playsAudio_deliver (env : Env M) (now : Int) (source : M) (vp : VideoPacket)
    {s : Session M} {m : M} (hm : s.mediaSource = some m) :
    ∃ read done, PlaysAudio s read done (s.deliver env now source vp) := by
  have hframe := playsAudio_sendFrame env source vp hm
  obtain ⟨_, m', -, hm', -⟩ := hframe.source
  obtain ⟨read, done, haudio⟩ := playsAudio_paceAudio env now source hm'
  exact ⟨_, _, hframe.trans haudio⟩

/-! ## The invariant of a pass -/

/-- The video frames of a pass: none before the first key frame; then those sent and the one held
    are those read. A session that neither plays nor is paused may have dropped the held one. -/
structure VideoInOrder (vs : List VideoPacket) (pass : List Event) (s : Session M) : Prop where
  waiting : s.firstFrame = true → s.pendingVp = none ∧ playable vs = []
  started : s.firstFrame = false → s.resumeWaitingForIdr = false ∧ playable vs ≠ []
  sent : sentFrames pass <+: playable vs
  held : s.Active → sentFrames pass ++ s.pendingVp.toList = playable vs

/-- The audio packets of a pass: those done with and the one held are those read. -/
structure AudioInOrder (ssrc : UInt32) (seq : UInt16) (aps : List AudioPacket)
    (pass : List Event) (s : Session M) : Prop where
  queue : ∃ done, aps = done ++ s.pendingAp.toList ∧
    audioPackets pass = audioRtp ssrc seq (audible done) ∧
    s.audioRtpSeq = seq + UInt16.ofNat (audible done).length
  ssrc : s.audioSsrc = ssrc

/-- The invariant of a pass that starts with the source `m₀`. -/
structure InOrder (m₀ : M) (ssrc : UInt32) (seq : UInt16) (pass : List Event) (s : Session M) :
    Prop where
  nptEnd : s.nptEnd ≤ 0
  up : s.TransportUp
  frames : ∃ m vs aps, s.mediaSource = some m ∧ Reads m₀ vs aps m ∧ VideoInOrder vs pass s ∧
    AudioInOrder ssrc seq aps pass s

section

omit [IMediaSource M]

theorem sentFrames_nil {l : List Event} (h : ∀ vp, .sending vp ∉ l) : sentFrames l = [] := by
  refine List.filterMap_eq_nil_iff.mpr fun e he => ?_
  split
  · next vp => exact absurd he (h vp)
  · rfl

/-- A step that leaves the video frames alone. -/
theorem VideoInOrder.of_same {vs : List VideoPacket} {pass l : List Event} {s s' : Session M}
    (h : VideoInOrder vs pass s) (hl : sentFrames l = []) (hfirst : s'.firstFrame = s.firstFrame)
    (hgate : s'.resumeWaitingForIdr = s.resumeWaitingForIdr)
    (hvp : s'.pendingVp = s.pendingVp ∨ s'.pendingVp = none ∧ ¬ s'.Active)
    (hactive : s'.Active → s.Active) : VideoInOrder vs (pass ++ l) s' := by
  have hsent : sentFrames (pass ++ l) = sentFrames pass := by
    rw [sentFrames_append, hl, List.append_nil]
  refine ⟨fun hff => ?_, fun hff => ?_, by rw [hsent]; exact h.sent, fun ha => ?_⟩
  · obtain ⟨hnone, hvs⟩ := h.waiting (hfirst ▸ hff)
    rcases hvp with hvp | ⟨hvp, -⟩
    · exact ⟨hvp.trans hnone, hvs⟩
    · exact ⟨hvp, hvs⟩
  · obtain ⟨hopen, hvs⟩ := h.started (hfirst ▸ hff)
    exact ⟨hgate.trans hopen, hvs⟩
  · rcases hvp with hvp | ⟨-, hno⟩
    · rw [hsent, hvp]
      exact h.held (hactive ha)
    · exact absurd ha hno

/-- A step that leaves the audio packets alone. -/
theorem AudioInOrder.of_same {ssrc : UInt32} {seq : UInt16} {aps : List AudioPacket}
    {pass l : List Event} {s s' : Session M} (h : AudioInOrder ssrc seq aps pass s)
    (hl : audioPackets l = []) (hap : s'.pendingAp = s.pendingAp)
    (hseq : s'.audioRtpSeq = s.audioRtpSeq) (hssrc : s'.audioSsrc = s.audioSsrc) :
    AudioInOrder ssrc seq aps (pass ++ l) s' := by
  obtain ⟨done, haps, hpackets, hseq'⟩ := h.queue
  refine ⟨⟨done, by rw [hap]; exact haps, ?_, hseq.trans hseq'⟩, hssrc.trans h.ssrc⟩
  rw [audioPackets_append, hl, List.append_nil]
  exact hpackets

end

/-- Steps 8 and 9 keep the audio in order. -/
theorem AudioInOrder.plays {ssrc : UInt32} {seq : UInt16} {aps read done : List AudioPacket}
    {pass l : List Event} {s s' : Session M} (h : AudioInOrder ssrc seq aps pass s)
    (hplays : PlaysAudio s read done s') (hlog : s'.log = s.log ++ l) :
    AudioInOrder ssrc seq (aps ++ read) (pass ++ l) s' := by
  obtain ⟨before, haps, hpackets, hseq⟩ := h.queue
  obtain ⟨tail, hlog', htail⟩ := hplays.log
  obtain rfl := List.append_cancel_left (hlog.symm.trans hlog')
  refine ⟨⟨before ++ done, ?_, ?_, ?_⟩, hplays.ssrc.trans h.ssrc⟩
  · rw [haps, List.append_assoc, hplays.queue, List.append_assoc]
  · rw [audioPackets_append, hpackets, htail, audible_append, audioRtp_append, h.ssrc, hseq]
  · rw [hplays.seq, hseq, audible_append, List.length_append, UInt16.ofNat_add, UInt16.add_assoc]

/-- The frame a tick holds is the next one to send. -/
theorem Holds.playable {now : Int} {source source' : M} {vp : VideoPacket} {s t : Session M}
    {vs : List VideoPacket} {pass : List Event} (h : Holds now source s vp source' t)
    (hv : VideoInOrder vs pass s) (hs : s.Active) :
    ∃ vs', Reads source vs' [] source' ∧ playable (vs ++ vs') = sentFrames pass ++ [vp] := by
  cases h with
  | kept _ _ _ _ _ hheld =>
      have hsent := hv.held hs
      rw [hheld] at hsent
      exact ⟨[], .refl source, by rw [List.append_nil]; exact hsent.symm⟩
  | read _ _ _ _ _ hnone hread hnals hgate =>
      have hvp : s.pendingVp = none := hnone.elim (fun hff => (hv.waiting hff).1) id
      have hsent := hv.held hs
      rw [hvp, Option.toList_none, List.append_nil] at hsent
      refine ⟨[vp], (Reads.refl source).video hread, ?_⟩
      rw [hsent]
      refine playable_next hnals fun hempty => hgate (.inl ?_)
      by_contra hff
      exact (hv.started (Bool.of_not_eq_true hff)).2 hempty

omit [IMediaSource M] in
/-- A frame that is passed over is not to be sent. -/
theorem VideoInOrder.skip {vs : List VideoPacket} {pass : List Event} {s s' : Session M}
    {vp : VideoPacket} (h : VideoInOrder vs pass s)
    (hnone : s.firstFrame = true ∨ s.pendingVp = none)
    (hskip : vp.nals = [] ∨
      (s.firstFrame = true ∨ s.resumeWaitingForIdr = true) ∧ vp.isKeyFrame = false)
    (hfirst : s'.firstFrame = s.firstFrame)
    (hgate : s'.resumeWaitingForIdr = s.resumeWaitingForIdr) (hvp : s'.pendingVp = none)
    (hstate : s'.state = s.state) : VideoInOrder (vs ++ [vp]) pass s' := by
  have hheld : s.pendingVp = none := hnone.elim (fun hff => (h.waiting hff).1) id
  have hsame : playable (vs ++ [vp]) = playable vs := by
    refine playable_skip (hskip.imp_right fun ⟨hclosed, hkey⟩ => ⟨?_, hkey⟩)
    -- once the pass has started neither gate is closed
    have hff : s.firstFrame = true := by
      by_contra hff
      have hopen := (h.started (Bool.of_not_eq_true hff)).1
      rw [hopen] at hclosed
      rcases hclosed with hc | hc
      · exact hff hc
      · cases hc
    exact (h.waiting hff).2
  have hkeep := h.of_same (l := []) rfl hfirst hgate (.inl (hvp.trans hheld.symm))
    fun ha => ha.of_eq hstate
  rw [List.append_nil] at hkeep
  exact ⟨by rw [hsame]; exact hkeep.waiting, by rw [hsame]; exact hkeep.started,
    by rw [hsame]; exact hkeep.sent, by rw [hsame]; exact hkeep.held⟩

omit [IMediaSource M] in
/-- The next frame is sent. -/
theorem VideoInOrder.send {vs : List VideoPacket} {pass l : List Event} {s : Session M}
    {vp : VideoPacket} (hplay : playable vs = sentFrames pass ++ [vp]) (hl : sentFrames l = [vp])
    (hfirst : s.firstFrame = false) (hgate : s.resumeWaitingForIdr = false)
    (hvp : s.pendingVp = none) : VideoInOrder vs (pass ++ l) s := by
  have hsent : sentFrames (pass ++ l) = playable vs := by
    rw [sentFrames_append, hl, hplay]
  refine ⟨fun hff => ?_, fun _ => ⟨hgate, ?_⟩, by rw [hsent], fun _ => ?_⟩
  · rw [hfirst] at hff
    cases hff
  · rw [hplay]
    simp
  · rw [hsent, hvp, Option.toList_none, List.append_nil]

/-- The events of a frame that is sent. -/
theorem sentFrames_sending {packets : List Event} (vp : VideoPacket)
    (h : ∀ e ∈ packets, e.packetTrack.isSome = true) : sentFrames (.sending vp :: packets) = [vp] := by
  have hnil : sentFrames packets = [] :=
    sentFrames_nil fun vp' hmem => Bool.noConfusion (h _ hmem)
  change vp :: sentFrames packets = [vp]
  rw [hnil]

/-- Step 2 keeps a held frame of a session that is paused. A session that plays and does not
    stream has no video transport. -/
theorem inOrder_idle {m₀ : M} {ssrc : UInt32} {seq : UInt16} {pass : List Event} {s : Session M}
    (now : Int) (hI : InOrder m₀ ssrc seq pass s) (hs : ¬ s.Streaming) :
    InOrder m₀ ssrc seq pass (s.notStreaming now) := by
  obtain ⟨pause, heq⟩ := notStreaming_eq now s
  obtain ⟨m, vs, aps, hm, hreads, hv, ha⟩ := hI.frames
  rw [heq]
  have hnot : s.state ≠ .playing := fun hplay =>
    hs ⟨hplay, by rw [hm]; rfl, hI.up (by rw [hplay]; decide)⟩
  rw [← List.append_nil pass]
  refine ⟨hI.nptEnd, hI.up, m, vs, aps, hm, hreads, ?_, ha.of_same rfl rfl rfl rfl⟩
  refine hv.of_same rfl rfl rfl ?_ id
  by_cases hp : s.state = .paused
  · exact .inl (if_pos hp)
  · exact .inr ⟨if_neg hp, fun h => h.elim hnot hp⟩

/-- A tick without a frame. -/
theorem inOrder_passes {m₀ : M} {ssrc : UInt32} {seq : UInt16} {pass l : List Event} {now : Int}
    {source : M} {s t : Session M} (hI : InOrder m₀ ssrc seq pass s)
    (hsource : s.mediaSource = some source) (h : Passes now source s t)
    (hlog : t.log = s.log ++ l) (hin : InPass l) : InOrder m₀ ssrc seq (pass ++ l) t := by
  obtain ⟨m, vs, aps, hm, hreads, hv, ha⟩ := hI.frames
  obtain rfl := Option.some.inj (hsource.symm.trans hm)
  cases h with
  | gated _ _ _ _ hfirst hgate =>
      rw [(hv.started hfirst).1] at hgate
      cases hgate
  | ended =>
      rw [← List.append_cancel_left hlog] at hin
      cases hin .sought (List.mem_singleton.mpr rfl)
  | stopped _ _ _ _ _ _ _ _ _ hend =>
      have hpos : 0 < s.nptEnd := by
        simp only [reachedEnd, Bool.and_eq_true, decide_eq_true_eq] at hend
        exact hend.1
      exact absurd hpos (not_lt.mpr hI.nptEnd)
  | skipped _ _ vp source' _ hnone hread hskip =>
      obtain rfl := List.self_eq_append_right.mp hlog
      refine ⟨hI.nptEnd, hI.up, source', vs ++ [vp], aps, rfl, hreads.video hread, ?_,
        ha.of_same rfl rfl rfl rfl⟩
      rw [List.append_nil]
      exact hv.skip hnone hskip rfl rfl rfl rfl

/-- A tick that holds a frame and waits. -/
theorem inOrder_waits {m₀ : M} {ssrc : UInt32} {seq : UInt16} {pass : List Event} {now : Int}
    {source source' : M} {vp : VideoPacket} {s t : Session M} (k : Nat)
    (hI : InOrder m₀ ssrc seq pass s) (hs : s.Streaming) (hsource : s.mediaSource = some source)
    (h : Holds now source s vp source' t) (hfirst : s.firstFrame = false) :
    InOrder m₀ ssrc seq (pass ++ [.timed vp k]) (t.emit (.timed vp k)) := by
  obtain ⟨m, vs, aps, hm, hreads, hv, ha⟩ := hI.frames
  obtain rfl := Option.some.inj (hsource.symm.trans hm)
  obtain ⟨vs', hreads', hplay⟩ := h.playable hv (.inl hs.1)
  obtain ⟨hm', hvp, hgate, hfirst'⟩ := h.facts hsource
  have hvideo : VideoInOrder (vs ++ vs') (pass ++ [.timed vp k]) (t.emit (.timed vp k)) := by
    have hsent : sentFrames (pass ++ [.timed vp k]) = sentFrames pass := by
      rw [sentFrames_append]
      exact List.append_nil _
    refine ⟨fun hff => ?_, fun _ => ⟨hgate, by rw [hplay]; simp⟩, ?_, fun _ => ?_⟩
    · have hff : t.firstFrame = true := hff
      rw [hfirst', hfirst] at hff
      cases hff
    · rw [hsent, hplay]
      exact List.prefix_append _ _
    · change sentFrames _ ++ t.pendingVp.toList = _
      rw [hsent, hplay, hvp]
      rfl
  have hall := hreads.trans hreads'
  rw [List.append_nil] at hall
  cases h with
  | kept => exact ⟨hI.nptEnd, hI.up, _, _, _, hm', hall, hvideo, ha.of_same rfl rfl rfl rfl⟩
  | read => exact ⟨hI.nptEnd, hI.up, _, _, _, hm', hall, hvideo, ha.of_same rfl rfl rfl rfl⟩

/-- Steps 8 and 9 on the frame that is next. -/
theorem inOrder_deliver {m₀ : M} {ssrc : UInt32} {seq : UInt16} {pass l : List Event}
    {vs : List VideoPacket} {aps : List AudioPacket} {source : M} {vp : VideoPacket}
    {s : Session M} (env : Env M) (now : Int) (hm : s.mediaSource = some source)
    (hreads : Reads m₀ vs aps source) (hplay : playable vs = sentFrames pass ++ [vp])
    (ha : AudioInOrder ssrc seq aps pass s) (hfirst : s.firstFrame = false)
    (hgate : s.resumeWaitingForIdr = false) (hnpt : s.nptEnd ≤ 0) (hup : s.TransportUp)
    (hlog : (s.deliver env now source vp).log = s.log ++ l) :
    InOrder m₀ ssrc seq (pass ++ l) (s.deliver env now source vp) := by
  obtain ⟨read, done, haudio⟩ := playsAudio_deliver env now source vp hm
  obtain ⟨tail, hlog', htail, _, _, _, _, _, _, heq⟩ := deliver_spec env now source vp s
  obtain rfl := List.append_cancel_left (hlog.symm.trans hlog')
  obtain ⟨m, m', hm₁, hm', hreads'⟩ := haudio.source
  obtain rfl := Option.some.inj (hm.symm.trans hm₁)
  have hall := hreads.trans hreads'
  rw [List.append_nil] at hall
  have ha' := ha.plays haudio hlog
  have hvideo : VideoInOrder vs (pass ++ .sending vp :: tail) (s.deliver env now source vp) :=
    .send hplay (sentFrames_sending vp htail) (by rw [heq]; exact hfirst) (by rw [heq]; exact hgate)
      (by rw [heq]; rfl)
  exact ⟨by rw [heq]; exact hnpt, by rw [heq]; exact hup, m', vs, aps ++ read, hm', hall, hvideo, ha'⟩

/-- A tick that sends a frame. `marks` are the events of steps 6 and 7, `u` the session after
    them. -/
theorem inOrder_sends {m₀ : M} {ssrc : UInt32} {seq : UInt16} {pass l : List Event}
    {now : Int} {source source' : M} {vp : VideoPacket} {s t u : Session M} (env : Env M)
    (marks : List Event)
    (hI : InOrder m₀ ssrc seq pass s) (hs : s.Streaming) (hsource : s.mediaSource = some source)
    (h : Holds now source s vp source' t) (hmarks : sentFrames marks = [])
    (haudio : audioPackets marks = []) (hulog : u.log = t.log ++ marks)
    (hu : u = { t with
      wallStart := u.wallStart, loopVideoOffset := u.loopVideoOffset
      audioLoopOffset := u.audioLoopOffset, firstFrame := false, log := u.log })
    (hlog : (u.deliver env now source' vp).log = s.log ++ l) :
    InOrder m₀ ssrc seq (pass ++ l) (u.deliver env now source' vp) := by
  obtain ⟨m, vs, aps, hm, hreads, hv, ha⟩ := hI.frames
  obtain rfl := Option.some.inj (hsource.symm.trans hm)
  obtain ⟨vs', hreads', hplay⟩ := h.playable hv (.inl hs.1)
  obtain ⟨hm', hvp, hgate, -⟩ := h.facts hsource
  have hall := hreads.trans hreads'
  rw [List.append_nil] at hall
  obtain ⟨tail, hlog', -⟩ := deliver_spec env now source' vp u
  obtain rfl : l = marks ++ .sending vp :: tail := by
    rw [hlog', hulog, h.log, List.append_assoc] at hlog
    exact (List.append_cancel_left hlog).symm
  have hfields : t.nptEnd = s.nptEnd ∧ t.state = s.state ∧ t.transportReady = s.transportReady ∧
      t.pendingAp = s.pendingAp ∧ t.audioRtpSeq = s.audioRtpSeq ∧ t.audioSsrc = s.audioSsrc := by
    cases h <;> exact ⟨rfl, rfl, rfl, rfl, rfl, rfl⟩
  obtain ⟨hnpt, hstate, hready, hap, hseq, hssrc⟩ := hfields
  rw [← List.append_assoc]
  refine inOrder_deliver env now ?_ hall ?_ (ha.of_same haudio ?_ ?_ ?_) ?_ ?_ ?_ ?_ hlog'
  · rw [hu]; exact hm'
  · rw [sentFrames_append, hmarks, List.append_nil]; exact hplay
  · rw [hu]; exact hap
  · rw [hu]; exact hseq
  · rw [hu]; exact hssrc
  · rw [hu]
  · rw [hu]; exact hgate
  · rw [hu]; exact hnpt.symm ▸ hI.nptEnd
  · rw [hu]
    intro hne
    exact hready.trans (hI.up (hstate ▸ hne))

/-- The pacing part of a tick. -/
theorem inOrder_ticks {m₀ : M} {ssrc : UInt32} {seq : UInt16} {pass l : List Event}
    {env : Env M} {now : Int} {s s' : Session M} (hI : InOrder m₀ ssrc seq pass s)
    (h : Ticks env now s s') (hlog : s'.log = s.log ++ l) (hin : InPass l) :
    InOrder m₀ ssrc seq (pass ++ l) s' := by
  cases h with
  | idle hs =>
      have hsame : (s.notStreaming now).log = s.log := by
        obtain ⟨pause, heq⟩ := notStreaming_eq now s
        rw [heq]
      obtain rfl := List.self_eq_append_right.mp (hsame.symm.trans hlog)
      rw [List.append_nil]
      exact inOrder_idle now hI hs
  | passes _ hsource hp => exact inOrder_passes hI hsource hp hlog hin
  | @waits _ _ vp t hs hsource hh hfirst =>
      have hl : l = [.timed vp (t.mediaTicks vp)] := by
        change t.log ++ _ = _ at hlog
        rw [hh.log] at hlog
        exact (List.append_cancel_left hlog).symm
      rw [hl]
      exact inOrder_waits _ hI hs hsource hh hfirst
  | @starts _ source' vp t hs hsource hh hfirst =>
      exact inOrder_sends env [.anchored vp now, .timed vp 0] hI hs hsource hh rfl rfl
        (List.append_assoc ..) rfl hlog
  | @sends _ source' vp t hs hsource hh hfirst =>
      refine inOrder_sends env [.timed vp (t.mediaTicks vp)] hI hs hsource hh rfl rfl rfl ?_ hlog
      have hff := (hh.facts hsource).2.2.2.trans hfirst
      rw [← hff]
      rfl

/-! ## Runs -/

/-- Requests and responses send no frame and no audio packet. -/
theorem nothingSent_of_exchange {l : List Event} (h : ∀ e ∈ l, e.isExchange = true) :
    sentFrames l = [] ∧ audioPackets l = [] := by
  refine ⟨sentFrames_nil fun vp hmem => Bool.noConfusion (h _ hmem), ?_⟩
  refine List.filterMap_eq_nil_iff.mpr fun e he => ?_
  have hex := h e he
  unfold Event.isExchange at hex
  split at hex
  · rfl
  · rfl
  · cases hex

theorem InOrder.aside {m₀ : M} {ssrc : UInt32} {seq : UInt16} {pass l : List Event}
    {s s' : Session M} (hI : InOrder m₀ ssrc seq pass s) (h : Aside s s')
    (hactive : s'.Active → s.Active) (hup : s'.TransportUp) (hlog : s'.log = s.log ++ l) :
    InOrder m₀ ssrc seq (pass ++ l) s' := by
  obtain ⟨hstream, tail, hlog', htail⟩ := h
  obtain rfl := List.append_cancel_left (hlog.symm.trans hlog')
  obtain ⟨hsent, haudio⟩ := nothingSent_of_exchange htail
  obtain ⟨m, vs, aps, hm, hreads, hv, ha⟩ := hI.frames
  refine ⟨?_, hup, m, vs, aps, (congrArg Stream.source hstream).trans hm, hreads, ?_, ?_⟩
  · rw [show s'.nptEnd = s.nptEnd from congrArg Stream.nptEnd hstream]
    exact hI.nptEnd
  · exact hv.of_same hsent (congrArg Stream.firstFrame hstream)
      (congrArg Stream.resumeWaitingForIdr hstream) (.inl (congrArg Stream.pendingVp hstream))
      hactive
  · exact ha.of_same haudio (congrArg Stream.pendingAp hstream)
      (congrArg Stream.audioRtpSeq hstream) (congrArg Stream.audioSsrc hstream)

theorem inOrder_step {m₀ : M} {ssrc : UInt32} {seq : UInt16} {pass l : List Event}
    {t t' : Handled M} {a : SessionAct M} (hI : InOrder m₀ ssrc seq pass (sessionOf t))
    (h : sessionStep t a = some t') (hlog : (sessionOf t').log = (sessionOf t).log ++ l)
    (hin : InPass l) : InOrder m₀ ssrc seq (pass ++ l) (sessionOf t') := by
  have hup := transportUp_step hI.up h
  cases t with
  | error s => cases h
  | ok s =>
      cases a with
      | command req =>
          obtain rfl := Option.some.inj h
          obtain rfl := List.self_eq_append_right.mp hlog
          obtain ⟨m, vs, aps, hm, hreads, hv, ha⟩ := hI.frames
          exact ⟨hI.nptEnd, hup, m, vs, aps, hm, hreads, hv.of_same rfl rfl rfl (.inl rfl) id,
            ha.of_same rfl rfl rfl rfl⟩
      | handle env =>
          obtain ⟨req, rest, -, rfl⟩ := handle_cases h
          obtain ⟨l', hl'⟩ := handleNext_log env req rest s
          obtain rfl := List.append_cancel_left (hlog.symm.trans hl')
          have hdescribe : req.method ≠ ascii "DESCRIBE" := by
            have hno : decide (req.method = ascii "DESCRIBE") = false :=
              hin (.request req) List.mem_cons_self
            exact of_decide_eq_false hno
          have htaken : InOrder m₀ ssrc seq (pass ++ [.request req])
              ({ s with cmdQueue := rest }.emit (.request req)) := by
            obtain ⟨m, vs, aps, hm, hreads, hv, ha⟩ := hI.frames
            exact ⟨hI.nptEnd, hI.up, m, vs, aps, hm, hreads, hv.of_same rfl rfl rfl (.inl rfl) id,
              ha.of_same rfl rfl rfl rfl⟩
          obtain ⟨hserves, hlog'⟩ := handleNext_serves env rest hdescribe hl'
          have hin' : .sought ∉ l' := fun hmem =>
            Bool.noConfusion (hin .sought (List.mem_cons_of_mem _ hmem))
          rcases hserves.sought_or hlog' with ⟨ha, hactive⟩ | ⟨hnone, -⟩ | ⟨hsought, -⟩
          · have := htaken.aside ha hactive hup hlog'
            rwa [List.append_assoc] at this
          · -- a pass has a source
            obtain ⟨m, _, _, hm, -⟩ := htaken.frames
            rw [hnone] at hm
            cases hm
          · exact absurd hsought hin'
      | pace env now =>
          obtain rfl := Option.some.inj h
          exact inOrder_ticks hI (ticks_pace env now s) hlog hin

/-- A pass starts with nothing read, held or sent. -/
theorem InOrder.start {s : Session M} (h : s.Restarted) (hnpt : s.nptEnd ≤ 0) (hup : s.TransportUp) :
    ∃ m, s.mediaSource = some m ∧ InOrder m s.audioSsrc s.audioRtpSeq [] s := by
  obtain ⟨hff, hvp, hap, m, hm⟩ := h
  refine ⟨m, hm, hnpt, hup, m, [], [], hm, .refl m, ?_, ?_⟩
  · refine ⟨fun _ => ⟨hvp, rfl⟩, fun hno => ?_, List.prefix_rfl, fun _ => by rw [hvp]; rfl⟩
    rw [hff] at hno
    cases hno
  · exact ⟨⟨[], by rw [hap]; rfl, rfl, by simp [audible]⟩, rfl⟩

/-- **No frame is lost, repeated or reordered.** For every source and every run from a new
    session: after a step that seeks, up to the next seek or DESCRIBE and with no end of the range
    set, the video frames sent are a prefix of those `readPacket` has returned since, without
    those that have no NAL units and those before the first key frame; and the audio packets
    built are those of a prefix of what `readAudioPacket` has returned since, without the empty
    ones. -/
theorem frames_in_order (clientIp mediaRoot sessionId : Bytes) (ssrc audioSsrc : UInt32)
    (before as : List (SessionAct M)) (s : Session M) (a : SessionAct M) (t₀ t : Handled M)
    (seek pass : List Event)
    (hbefore : Lts.run sessionStep (.ok (Session.new clientIp mediaRoot sessionId ssrc audioSsrc))
      before = some (.ok s))
    (hseek : sessionStep (.ok s) a = some t₀) (hlog : (sessionOf t₀).log = s.log ++ seek)
    (hsought : .sought ∈ seek) (hnpt : (sessionOf t₀).nptEnd ≤ 0)
    (hrun : Lts.run sessionStep t₀ as = some t)
    (hlog' : (sessionOf t).log = (sessionOf t₀).log ++ pass) (hin : InPass pass) :
    ∃ m₀ m vs aps sent, (sessionOf t₀).mediaSource = some m₀ ∧
      (sessionOf t).mediaSource = some m ∧ Reads m₀ vs aps m ∧
      sentFrames pass <+: playable vs ∧ sent <+: audible aps ∧
      audioPackets pass =
        audioRtp (sessionOf t₀).audioSsrc (sessionOf t₀).audioRtpSeq sent := by
  have hup : (sessionOf t₀).TransportUp :=
    transportUp_of_run (Lts.run_snoc hbefore hseek)
  obtain ⟨m₀, hm₀, hstart⟩ := InOrder.start (restarted_of_sought hseek hlog hsought) hnpt hup
  have hI : InOrder m₀ (sessionOf t₀).audioSsrc (sessionOf t₀).audioRtpSeq pass (sessionOf t) :=
    Lts.run_events (fun u : Handled M => (sessionOf u).log)
      (I := fun l u => InOrder m₀ (sessionOf t₀).audioSsrc (sessionOf t₀).audioRtpSeq l (sessionOf u))
      (fun _ _ _ => log_step) (fun _ _ _ _ _ hI h hlog hl => inOrder_step hI h hlog hl) hstart hrun
      hlog' hin
  obtain ⟨m, vs, aps, hm, hreads, hv, ha⟩ := hI.frames
  obtain ⟨done, haps, hpackets, -⟩ := ha.queue
  refine ⟨m₀, m, vs, aps, audible done, hm₀, hm, hreads, hv.sent, ?_, hpackets⟩
  rw [haps, audible_append]
  exact List.prefix_append _ _

/-- The PLAY of the file sets no end of the range. -/
theorem nptEnd_inOrder : (Lts.run sessionStep (.ok client)
    (untilPlay inOrder ++ [.handle (machine inOrder)])).map
      (fun t => decide ((sessionOf t).nptEnd ≤ 0)) = some true := by
  decide +kernel

/-- The two frames are timed in the two ticks after the PLAY. -/
theorem plays_inOrder : playsPass inOrder (untilPlay inOrder) (twoTicks inOrder) none
    (demoFrame (demoPacket 0 0 true) 0)
    [(demoFrame (demoPacket 0 0 true) 0, 0), (demoFrame (demoPacket 3600 3600 false) 3600, 3600)]
    [0, 3600] = true := by
  decide +kernel

theorem frames_in_order_inOrder : ∃ s t₀ t pass m₀ m vs aps,
    Lts.run sessionStep (.ok client) (untilPlay inOrder) = some (.ok s) ∧
      sessionStep (.ok s) (.handle (machine inOrder)) = some t₀ ∧
      Lts.run sessionStep t₀ (twoTicks inOrder) = some t ∧
      (sessionOf t).log = (sessionOf t₀).log ++ pass ∧
      .anchored (demoFrame (demoPacket 0 0 true) 0) 1 ∈ pass ∧
      (sessionOf t₀).mediaSource = some m₀ ∧ (sessionOf t).mediaSource = some m ∧
      Reads m₀ vs aps m ∧ sentFrames pass <+: playable vs := by
  obtain ⟨s, t₀, t, seek, pass, m, hs, hseek, hlog, hsought, -, hrun, hlog', hin, -, -, hanchor,
    -⟩ := playsPass_spec plays_inOrder
  have hnpt : (sessionOf t₀).nptEnd ≤ 0 := by
    have hend := nptEnd_inOrder
    rw [Lts.run_snoc hs hseek] at hend
    exact of_decide_eq_true (Option.some.inj hend)
  obtain ⟨m₀, m, vs, aps, -, hm₀, hm, hreads, hsent, -⟩ := frames_in_order _ _ _ _ _ _ _ s _ t₀ t
    seek pass hs hseek hlog hsought hnpt hrun hlog' hin
  exact ⟨s, t₀, t, pass, m₀, m, vs, aps, hs, hseek, hrun, hlog', hanchor, hm₀, hm, hreads, hsent⟩

end RtspServer
