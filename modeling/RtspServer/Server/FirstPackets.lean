/-
  The packets that RTP-Info announces. The answer to a fresh PLAY gives for each track the
  sequence number and the timestamp of the first packet that is to come: the counters of the
  session as they are, the timestamp of a frame read ahead, and the offset of the audio clock. The
  packets are sent by later ticks.

  `VideoNext` and `AudioNext` are the invariants up to the first packet: what is next is what was
  announced. `first_packets_announced`: the first packet of each track that leaves the server is
  the one announced, when the first frame has a NAL unit to send, the audio that is queued is at
  the offset, and until then no DESCRIBE opens another source and the track keeps its transport.
-/
import RtspServer.Server.KeyPosition
import RtspServer.Server.TrackTransport
import RtspServer.Server.Interleaving
import RtspServer.Server.PausedTime

namespace RtspServer

open ByteString Session IMediaSource

variable {M : Type}

/-! ## The packets that leave the server -/

/-- The packet of the track that is sent with this event. -/
def Event.emitted (track : Track) : Event → Option Bytes
  | .interleaved track' frame => if track' = track then some (frame.drop 4) else none
  | .datagram track' _ rtp => if track' = track then some rtp else none
  | _ => none

def emittedPackets (track : Track) (log : List Event) : List Bytes :=
  log.filterMap (Event.emitted track)

/-- The packet of the track that an event is about, also one that is dropped. -/
def Event.built : Track → Event → Option Bytes
  | .video => Event.videoPacket
  | .audio => Event.audioPacket

theorem emittedPackets_append (track : Track) (l l' : List Event) :
    emittedPackets track (l ++ l') = emittedPackets track l ++ emittedPackets track l' :=
  List.filterMap_append ..

theorem emittedPackets_nil {track : Track} {l : List Event}
    (h : ∀ e ∈ l, e.packetTrack = none) : emittedPackets track l = [] := by
  refine List.filterMap_eq_nil_iff.mpr fun e he => ?_
  have hnone := h e he
  cases e <;> first | rfl | cases hnone

theorem emitted_eq_built {track : Track} {e : Event} (h : ∀ rtp, e ≠ .dropped track rtp) :
    e.emitted track = e.built track := by
  cases e with
  | dropped track' rtp =>
      cases track <;> cases track' <;> first | rfl | exact absurd rfl (h rtp)
  | interleaved track' _ => cases track <;> cases track' <;> rfl
  | datagram track' _ _ => cases track <;> cases track' <;> rfl
  | _ => cases track <;> rfl

/-- Where nothing is dropped, what is sent is what was built. -/
theorem emittedPackets_eq_built {track : Track} {l : List Event}
    (h : ∀ rtp, .dropped track rtp ∉ l) :
    emittedPackets track l = l.filterMap (Event.built track) :=
  List.filterMap_congr fun _ he => emitted_eq_built fun rtp heq => h rtp (heq ▸ he)

/-- A packet of the track gets out: over TCP, or through a sender that was set up. -/
def Session.GetsOut (track : Track) (s : Session M) : Prop :=
  s.useTcp = false → ((s.senderOf track).bind UdpSender.dest).isSome = true

instance (track : Track) (s : Session M) : Decidable (s.GetsOut track) :=
  inferInstanceAs (Decidable (_ → _))

/-- The outbox is not above its watermark, whenever it is looked at. -/
def Env.LowOutbox (env : Env M) : Prop := ∀ k, env.outboxLoad k ≤ WriteWake.kOutboxHWM

theorem Session.GetsOut.of_same {track : Track} {s s' : Session M} (h : s.GetsOut track)
    (heq : transportOf s' = transportOf s) : s'.GetsOut track := by
  unfold GetsOut
  rw [senderOf_eq heq, show s'.useTcp = s.useTcp from congrArg Transport.useTcp heq]
  exact h

/-- `pushTCPFrame` or `RTPSender::send`, as `use_tcp_` says. -/
theorem send_gets_out {env : Env M} (hlow : env.LowOutbox) (track : Track) (channel : Int)
    (rtp : Bytes) (s : Session M) :
    ∃ e, (if s.useTcp then s.pushTCPFrame env track channel rtp
        else s.sendDatagram track (s.senderOf track) rtp).log = s.log ++ [e] ∧
      e.packetTrack = some track ∧ (s.GetsOut track → ∀ rtp, e ≠ .dropped track rtp) := by
  split
  · next htcp =>
      unfold pushTCPFrame
      rw [if_neg (not_lt.mpr (hlow s.loads))]
      exact ⟨_, rfl, rfl, fun _ _ => Event.noConfusion⟩
  · next htcp =>
      unfold sendDatagram
      split
      · exact ⟨_, rfl, rfl, fun _ _ => Event.noConfusion⟩
      · next hnone =>
          refine ⟨_, rfl, rfl, fun hs => ?_⟩
          obtain ⟨dest, hdest⟩ := Option.isSome_iff_exists.mp (hs (Bool.of_not_eq_true htcp))
          obtain ⟨⟨_⟩, hsender, rfl⟩ := Option.bind_eq_some_iff.mp hdest
          exact absurd hsender (hnone dest)

/-- One more event, which drops no packet of the track. -/
theorem not_dropped_snoc {track : Track} {l : List Event} {e : Event}
    (hl : ∀ rtp, .dropped track rtp ∉ l) (he : ∀ rtp, e ≠ .dropped track rtp) :
    ∀ rtp, .dropped track rtp ∉ l ++ [e] := by
  intro rtp hmem
  rcases List.mem_append.mp hmem with hmem | hmem
  · exact hl rtp hmem
  · exact he rtp (List.mem_singleton.mp hmem).symm

theorem ne_dropped_of_track {track track' : Track} {e : Event}
    (h : e.packetTrack = some track') (hsame : track' = track → ∀ rtp, e ≠ .dropped track rtp) :
    ∀ rtp, e ≠ .dropped track rtp := by
  rintro rtp rfl
  exact hsame (Option.some.inj h).symm rtp rfl

/-- A tick drops no packet of a track that gets out. -/
theorem Emits.gets_out [IMediaSource M] {env : Env M} {s s' : Session M} {track : Track}
    (h : Emits env s s') (hlow : env.LowOutbox) (hs : s.GetsOut track) :
    ∃ l, s'.log = s.log ++ l ∧ ∀ rtp, .dropped track rtp ∉ l := by
  induction h with
  | refl => exact ⟨[], (List.append_nil _).symm, fun _ hmem => nomatch hmem⟩
  | @notes t u _ hn ih =>
      obtain ⟨l, hl, hkept⟩ := ih
      obtain ⟨l', hl', hnotes⟩ := hn.log
      refine ⟨l ++ l', by rw [hl', hl, List.append_assoc], fun rtp hmem => ?_⟩
      rcases List.mem_append.mp hmem with hmem | hmem
      · exact hkept rtp hmem
      · exact Bool.noConfusion (hnotes _ hmem)
  | @video t ht payload ts marker _ ih =>
      obtain ⟨l, hl, hkept⟩ := ih
      have hgets : t.GetsOut track := hs.of_same (ht.conveys track s.useTcp).transport
      obtain ⟨e, he, htrack, hout⟩ := send_gets_out hlow .video t.rtpChannel
        (RTPPacket.build payload (toByte payloadType) t.rtpSeq ts t.ssrc marker)
        { t with rtpSeq := t.rtpSeq + 1 }
      refine ⟨l ++ [e], ?_, not_dropped_snoc hkept (ne_dropped_of_track htrack ?_)⟩
      · rw [← List.append_assoc, ← hl]
        exact he
      · rintro rfl
        exact hout hgets
  | @audio t ht ap _ ih =>
      obtain ⟨l, hl, hkept⟩ := ih
      have hgets : t.GetsOut track := hs.of_same (ht.conveys track s.useTcp).transport
      by_cases hdata : ap.data = []
      · rw [sendOneAudio, if_pos hdata]
        exact ⟨l, hl, hkept⟩
      · obtain ⟨e, he, htrack, hout⟩ := send_gets_out hlow .audio t.audioRtpChannel
          (RTPPacket.build (audioPayload ap.data) (toByte audioPayloadType) t.audioRtpSeq
            ap.rtpTimestamp t.audioSsrc true) { t with audioRtpSeq := t.audioRtpSeq + 1 }
        refine ⟨l ++ [e], ?_, not_dropped_snoc hkept (ne_dropped_of_track htrack ?_)⟩
        · rw [sendOneAudio, if_neg hdata, ← List.append_assoc, ← hl]
          exact he
        · rintro rfl
          exact hout hgets

/-! ## What is announced -/

/-- The sequence number and the timestamp of an RTP packet. -/
def stampOf (rtp : Bytes) : Option (UInt16 × UInt32) :=
  (RTPPacket.parse rtp).map fun fields => (fields.seq, fields.timestamp)

theorem stampOf_build (payload : Bytes) (pt : UInt8) (seq : UInt16) (ts ssrc : UInt32)
    (marker : Bool) : stampOf (RTPPacket.build payload pt seq ts ssrc marker) = some (seq, ts) := by
  rw [stampOf, RTPPacket.parse_build]
  rfl

/-- What RTP-Info says: the sequence number and the timestamp of each track it lists. -/
structure Announcement where
  video : UInt16 × UInt32
  audio : Option (UInt16 × UInt32)

def Announcement.entry (a : Announcement) : Track → Option (UInt16 × UInt32)
  | .video => some a.video
  | .audio => a.audio

def Announcement.text (url : Bytes) (a : Announcement) : Bytes :=
  rtpInfoEntry (trackUrl url "trackID=0") a.video.1 a.video.2 ++
    match a.audio with
    | none => []
    | some (seq, ts) => ascii "," ++ rtpInfoEntry (trackUrl url "trackID=1") seq ts

/-- The first packet of the track is the one announced. -/
def FirstIs (track : Track) (stamp : UInt16 × UInt32) (l : List Event) : Prop :=
  (emittedPackets track l).head?.bind stampOf = some stamp

/-- No packet of a track that is announced leaves the server before the one announced. -/
def FirstPackets (a : Announcement) (l : List Event) : Prop :=
  ∀ track stamp, a.entry track = some stamp → emittedPackets track l ≠ [] → FirstIs track stamp l

theorem FirstIs.append {track : Track} {stamp : UInt16 × UInt32} {l : List Event}
    (h : FirstIs track stamp l) (l' : List Event) : FirstIs track stamp (l ++ l') := by
  obtain ⟨rtp, hrtp, hstamp⟩ := Option.bind_eq_some_iff.mp h
  refine Option.bind_eq_some_iff.mpr ⟨rtp, ?_, hstamp⟩
  rw [emittedPackets_append, List.head?_append, hrtp]
  rfl

variable [IMediaSource M]

/-- What the answer to a fresh PLAY announces of this source, which was sought already. -/
def Session.announced (source : M) (s : Session M) : Announcement :=
  let peeked := peekNextVideoRTPTimestamp source
  { video := (s.rtpSeq, peeked.1)
    audio :=
      if s.audioTransportReady && (audioInfo peeked.2).present then
        some (s.audioRtpSeq, audioRTPOffset peeked.2)
      else none }

theorem rtpInfo_text (url : Bytes) {s : Session M} {source : M}
    (h : s.mediaSource = some source) : (s.rtpInfo url).1 = (s.announced source).text url := by
  unfold rtpInfo announced Announcement.text
  rw [h]
  dsimp only
  split <;> rfl

theorem lookup_play (date : Bytes) (cseq : Int) (sessionId range : Bytes) {info : Bytes}
    (h : info ≠ []) : (RTSPResponse.play date cseq sessionId range info).headers.lookup
      (ascii "RTP-Info") = some info := by
  unfold RTSPResponse.play
  dsimp only
  rw [if_neg h]
  exact RTSPResponse.lookup_setHeader _ _ _

/-! ## The packets of a frame -/

/-- The first packet of a frame. -/
theorem deliver_first (env : Env M) (now : Int) {source : M} {vp : VideoPacket} {s : Session M}
    {l : List Event} (hnals : nalList (streamInfo source) vp ≠ [])
    (hlog : (s.deliver env now source vp).log = s.log ++ l) :
    (videoPackets l).head?.bind stampOf = some (s.rtpSeq, vp.rtpTimestamp) := by
  obtain ⟨loads, close, tail, heq, htail⟩ := sendFrame_spec env source vp s
  obtain ⟨aseq, loads', close', tail', held, n, heq', -⟩ :=
    paceAudio_spec env now source ((s.sendFrame env source vp).trackFrame source vp)
  have hl : l = .sending vp :: (tail ++ tail') := by
    unfold deliver at hlog
    rw [heq', heq] at hlog
    simp only [trackFrame, List.append_assoc, List.cons_append] at hlog
    exact (List.append_cancel_left hlog).symm
  obtain ⟨p, rest, hp⟩ := List.exists_cons_of_ne_nil
    (framePayloads_ne_nil hnals fun nal hnal => (mem_accessUnit (nalList_eq _ vp ▸ hnal)).2)
  rw [hp, rtpPackets_cons, List.map_cons] at htail
  obtain ⟨e, events, rfl, he, -⟩ := List.map_eq_cons_iff.mp htail
  have hpackets : videoPackets l = RTPPacket.build p.1 (toByte payloadType) s.rtpSeq vp.rtpTimestamp
      s.ssrc p.2 :: videoPackets (events ++ tail') := by
    rw [hl]
    unfold videoPackets
    rw [List.filterMap_cons_none rfl, List.cons_append, List.filterMap_cons_some he]
  rw [hpackets]
  exact stampOf_build _ _ _ _ _ _

/-! ## The video up to its first packet -/

section

variable {D B : Type} [FFmpeg D B]

/-- The next video packet is the first one of the frame read ahead, with this stamp. -/
structure VideoNext (stamp : UInt16 × UInt32) (s : Session (MediaSource D B)) : Prop where
  firstFrame : s.firstFrame = true
  seq : s.rtpSeq = stamp.1
  frame : ∀ m, s.mediaSource = some m → ∃ vp, m.prefetchVp = some vp ∧ vp.rtpTimestamp = stamp.2 ∧
    vp.isKeyFrame = true ∧ vp.nals ≠ [] ∧ nalList m.streamInfo vp ≠ []

omit [FFmpeg D B] in
/-- A step that leaves the video alone; the source may be dropped. -/
theorem VideoNext.of_same {stamp : UInt16 × UInt32} {s s' : Session (MediaSource D B)}
    (h : VideoNext stamp s) (hfirst : s'.firstFrame = s.firstFrame) (hseq : s'.rtpSeq = s.rtpSeq)
    (hsource : ∀ m, s'.mediaSource = some m → s.mediaSource = some m) : VideoNext stamp s' :=
  ⟨hfirst.trans h.firstFrame, hseq.trans h.seq, fun m hm => h.frame m (hsource m hm)⟩

omit [FFmpeg D B] in
theorem emitted_nil_of_log {track : Track} {s s' : Session (MediaSource D B)} {l : List Event}
    (hsame : s'.log = s.log) (hlog : s'.log = s.log ++ l) : emittedPackets track l = [] := by
  rw [List.self_eq_append_right.mp (hsame.symm.trans hlog)]
  rfl

/-- The frame in the slot is the next one that is read. -/
theorem readPacket_of_some {m : MediaSource D B} {vp : VideoPacket} (h : m.prefetchVp = some vp) :
    m.readPacket = (some vp, { m with prefetchVp := none }) := by
  simp only [MediaSource.readPacket, h]

/-- A tick before the first video packet: it does not stream, or it sends the packet. -/
theorem videoNext_ticks {stamp : UInt16 × UInt32} {env : Env (MediaSource D B)} {now : Int}
    {s s' : Session (MediaSource D B)} {l : List Event} (h : VideoNext stamp s)
    (hticks : Ticks env now s s') (hlog : s'.log = s.log ++ l) (hsought : .sought ∉ l)
    (hstate : s'.state = s.state) (hout : s.Streaming → ∀ rtp, .dropped .video rtp ∉ l) :
    emittedPackets .video l = [] ∧ VideoNext stamp s' ∨ FirstIs .video stamp l := by
  have hread : ∀ source vp source', s.mediaSource = some source →
      readPacket source = (some vp, source') → vp.rtpTimestamp = stamp.2 ∧ vp.isKeyFrame = true ∧
        vp.nals ≠ [] ∧ nalList source'.streamInfo vp ≠ [] := by
    intro source vp source' hsource hr
    obtain ⟨vp', hslot, hts, hkey, hnals, hlist⟩ := h.frame source hsource
    change source.readPacket = _ at hr
    rw [readPacket_of_some hslot] at hr
    obtain ⟨hvp, rfl⟩ := Prod.mk.inj hr
    obtain rfl := Option.some.inj hvp
    exact ⟨hts, hkey, hnals, hlist⟩
  cases hticks with
  | idle =>
      obtain ⟨pause, heq⟩ := notStreaming_eq now s
      rw [heq] at hlog ⊢
      exact .inl ⟨emitted_nil_of_log rfl hlog, h.of_same rfl rfl fun _ hm => hm⟩
  | passes hs hsource hp =>
      exfalso
      cases hp with
      | gated _ _ _ _ hfirst => exact Bool.noConfusion (h.firstFrame.symm.trans hfirst)
      | ended _ _ source' _ _ hr =>
          obtain ⟨vp, hslot, -⟩ := h.frame _ hsource
          change MediaSource.readPacket _ = _ at hr
          rw [readPacket_of_some hslot] at hr
          cases hr
      | skipped _ _ vp source' _ _ hr hskip =>
          obtain ⟨-, hkey, hnals, -⟩ := hread _ vp source' hsource hr
          rcases hskip with hskip | ⟨-, hskip⟩
          · exact hnals hskip
          · exact Bool.noConfusion (hkey.symm.trans hskip)
      | stopped =>
          have hstate : State.paused = s.state := hstate
          rw [hs.1] at hstate
          cases hstate
  | waits _ _ _ hfirst => exact Bool.noConfusion (h.firstFrame.symm.trans hfirst)
  | sends _ _ _ hfirst => exact Bool.noConfusion (h.firstFrame.symm.trans hfirst)
  | @starts source source' vp t hs hsource hh =>
      cases hh with
      | kept _ _ _ _ hfirst => exact Bool.noConfusion (h.firstFrame.symm.trans hfirst)
      | read wall pause _ _ hclock hnone hr =>
          obtain ⟨hts, -, -, hlist⟩ := hread source vp source' hsource hr
          obtain ⟨tail, hlog', -⟩ := deliver_spec env now source' vp
            (({ s with
              wallStart := wall, pauseStart := pause, mediaSource := some source'
              resumeWaitingForIdr := false, pendingVp := some vp }.anchorAt now source' vp).emit
                (.timed vp 0))
          have hfirst := deliver_first env now hlist hlog'
          obtain rfl : l = .anchored vp now :: .timed vp 0 :: .sending vp :: tail := by
            refine List.append_cancel_left (hlog.symm.trans (hlog'.trans ?_))
            exact (List.append_assoc ..).trans (List.append_assoc ..)
          refine .inr ?_
          unfold FirstIs
          rw [emittedPackets_eq_built (hout hs)]
          change (videoPackets (.sending vp :: tail)).head?.bind stampOf = some stamp
          rw [hfirst]
          exact congrArg some (Prod.ext h.seq hts)

/-! ## The audio up to its first packet -/

/-- The audio packets that are queued, and those that are when the next frame is read, are not
    empty. -/
def AudioFilled (m : MediaSource D B) : Prop :=
  ∀ ap ∈ m.audioQueue ++ m.readPacket.2.audioQueue, ap.data ≠ []

/-- No audio packet was sent since the source was `m₀`: the one returned first is held, if any
    is. -/
structure AudioNext (m₀ : MediaSource D B) (seq : UInt16) (s : Session (MediaSource D B)) :
    Prop where
  seq : s.audioRtpSeq = seq
  held : ∀ ap, s.pendingAp = some ap → ap.data ≠ []
  reads : ∀ m, s.mediaSource = some m → ∃ ps, MediaSource.Pulls m₀ ps s.pendingAp.toList m

theorem AudioNext.of_same {m₀ : MediaSource D B} {seq : UInt16} {s s' : Session (MediaSource D B)}
    (h : AudioNext m₀ seq s) (hseq : s'.audioRtpSeq = s.audioRtpSeq)
    (hap : s'.pendingAp = s.pendingAp)
    (hsource : ∀ m, s'.mediaSource = some m → s.mediaSource = some m) : AudioNext m₀ seq s' := by
  refine ⟨hseq.trans h.seq, fun ap hap' => h.held ap (hap ▸ hap'), fun m hm => ?_⟩
  rw [hap]
  exact h.reads m (hsource m hm)

/-- A frame is read. -/
theorem AudioNext.read {m₀ : MediaSource D B} {seq : UInt16} {s s' : Session (MediaSource D B)}
    {source source' : MediaSource D B} {r : Option VideoPacket} (h : AudioNext m₀ seq s)
    (hsource : s.mediaSource = some source) (hread : readPacket source = (r, source'))
    (hseq : s'.audioRtpSeq = s.audioRtpSeq) (hap : s'.pendingAp = s.pendingAp)
    (hsource' : s'.mediaSource = some source') : AudioNext m₀ seq s' := by
  refine ⟨hseq.trans h.seq, fun ap hap' => h.held ap (hap ▸ hap'), fun m hm => ?_⟩
  obtain rfl := Option.some.inj (hsource'.symm.trans hm)
  obtain ⟨ps, hpulls⟩ := h.reads source hsource
  rw [hap]
  refine ⟨ps ++ source.packetReads, ?_⟩
  have hread : source.readPacket.2 = source' := congrArg Prod.snd hread
  rw [← hread]
  exact hpulls.read

/-- Reads of the audio queue. -/
theorem pulls_reads {m₀ m m' : MediaSource D B} {ps : List AVPacket} {aps read : List AudioPacket}
    {vs : List VideoPacket} (h : MediaSource.Pulls m₀ ps aps m) (hreads : Reads m vs read m') :
    ∃ ps', MediaSource.Pulls m₀ ps' (aps ++ read) m' := by
  induction hreads with
  | refl => exact ⟨ps, by rw [List.append_nil]; exact h⟩
  | @video m₁ m₂ _ _ vp _ hread ih =>
      obtain ⟨ps', ih⟩ := ih
      have hread : m₁.readPacket.2 = m₂ := congrArg Prod.snd hread
      rw [← hread]
      exact ⟨_, ih.read⟩
  | @audio m₁ m₂ _ _ ap _ hread ih =>
      obtain ⟨ps', ih⟩ := ih
      rw [← List.append_assoc]
      exact ⟨ps', ih.audio hread⟩
  | @noAudio m₁ m₂ _ _ _ hread ih =>
      obtain ⟨ps', ih⟩ := ih
      rw [MediaSource.readAudioPacket_none hread]
      exact ⟨ps', ih⟩

/-- What is read without a frame was queued. -/
theorem queued_of_reads {m m' : MediaSource D B} {vs : List VideoPacket} {read : List AudioPacket}
    (h : Reads m vs read m') (hvs : vs = []) : m.audioQueue = read ++ m'.audioQueue := by
  induction h with
  | refl => rfl
  | video => exact absurd hvs (by simp)
  | @audio m₁ m₂ _ _ ap _ hread ih =>
      rw [ih hvs, List.append_assoc, (MediaSource.readAudioPacket_some hread).1]
      rfl
  | @noAudio m₁ m₂ _ _ _ hread ih =>
      rw [ih hvs, MediaSource.readAudioPacket_none hread]

/-- Steps 8 and 9: no audio packet is sent, or the one returned first is the first one. -/
theorem audioNext_deliver {m₀ : MediaSource D B} {stamp : UInt16 × UInt32}
    (hstamp : ∀ ps ap aps m, MediaSource.Pulls m₀ ps (ap :: aps) m → ap.rtpTimestamp = stamp.2)
    {env : Env (MediaSource D B)} {now : Int} {source : MediaSource D B} {vp : VideoPacket}
    {s : Session (MediaSource D B)} {l : List Event} (h : AudioNext m₀ stamp.1 s)
    (hsource : s.mediaSource = some source) (hfilled : ∀ ap ∈ source.audioQueue, ap.data ≠ [])
    (hlog : (s.deliver env now source vp).log = s.log ++ l) :
    audioPackets l = [] ∧ AudioNext m₀ stamp.1 (s.deliver env now source vp) ∨
      (audioPackets l).head?.bind stampOf = some stamp := by
  obtain ⟨read, done, hplays⟩ := playsAudio_deliver env now source vp hsource
  generalize s.deliver env now source vp = s' at hlog hplays
  obtain ⟨m, m', hm, hm', hreads⟩ := hplays.source
  obtain rfl := Option.some.inj (hsource.symm.trans hm)
  obtain ⟨tail, htail, haudio⟩ := hplays.log
  obtain rfl := List.append_cancel_left (hlog.symm.trans htail)
  obtain ⟨ps, hpulls⟩ := h.reads source hsource
  obtain ⟨ps', hpulls'⟩ := pulls_reads hpulls hreads
  have hdata : ∀ ap ∈ s.pendingAp.toList ++ read, ap.data ≠ [] := by
    intro ap hap
    rcases List.mem_append.mp hap with hap | hap
    · exact h.held ap (Option.mem_toList.mp hap)
    · refine hfilled ap ?_
      rw [queued_of_reads hreads rfl]
      exact List.mem_append_left _ hap
  rw [hplays.queue] at hpulls' hdata
  cases done with
  | nil =>
      refine .inl ⟨by rw [haudio]; rfl, ?_, fun ap hap => ?_, fun m'' hm'' => ?_⟩
      · rw [hplays.seq]
        exact (UInt16.add_zero _).trans h.seq
      · exact hdata ap (Option.mem_toList.mpr hap)
      · obtain rfl := Option.some.inj (hm'.symm.trans hm'')
        exact ⟨ps', hpulls'⟩
  | cons ap rest =>
      -- the first packet that is done with is the first one returned
      refine .inr ?_
      have hne : ap.data ≠ [] := hdata ap List.mem_cons_self
      have hfirst : audible (ap :: rest) = ap :: audible rest :=
        List.filter_cons_of_pos (decide_eq_true hne)
      rw [haudio, hfirst, audioRtp, List.mapIdx_cons, List.head?_cons, Option.bind_some,
        stampOf_build, h.seq, hstamp ps' ap _ _ hpulls', show UInt16.ofNat 0 = 0 from rfl,
        UInt16.add_zero]

/-- A frame is held: the audio is as before, but for what was queued on the way. -/
theorem AudioNext.holds {m₀ : MediaSource D B} {seq : UInt16} {now : Int}
    {source source' : MediaSource D B} {vp : VideoPacket} {s t : Session (MediaSource D B)}
    (h : AudioNext m₀ seq s) (hsource : s.mediaSource = some source)
    (hh : Holds now source s vp source' t) (hfilled : AudioFilled source) :
    AudioNext m₀ seq t ∧ ∀ ap ∈ source'.audioQueue, ap.data ≠ [] := by
  cases hh with
  | kept =>
      exact ⟨h.of_same rfl rfl fun _ hm => hm,
        fun ap hap => hfilled ap (List.mem_append_left _ hap)⟩
  | read _ _ _ _ _ _ hread =>
      refine ⟨h.read hsource hread rfl rfl rfl, fun ap hap => ?_⟩
      have hqueue : source.readPacket.2 = source' := congrArg Prod.snd hread
      exact hfilled ap (List.mem_append_right _ (hqueue ▸ hap))

/-- A tick before the first audio packet. -/
theorem audioNext_ticks {m₀ : MediaSource D B} {stamp : UInt16 × UInt32}
    (hstamp : ∀ ps ap aps m, MediaSource.Pulls m₀ ps (ap :: aps) m → ap.rtpTimestamp = stamp.2)
    {env : Env (MediaSource D B)} {now : Int} {s s' : Session (MediaSource D B)} {l : List Event}
    (h : AudioNext m₀ stamp.1 s) (hticks : Ticks env now s s') (hlog : s'.log = s.log ++ l)
    (hsought : .sought ∉ l) (hfilled : ∀ m ∈ s.mediaSource, AudioFilled m)
    (hout : s.Streaming → ∀ rtp, .dropped .audio rtp ∉ l) :
    emittedPackets .audio l = [] ∧ AudioNext m₀ stamp.1 s' ∨ FirstIs .audio stamp l := by
  -- steps 8 and 9 behind the events of steps 6 and 7
  have hdeliver : ∀ {source'} u vp marks, s.Streaming → AudioNext m₀ stamp.1 u →
      u.mediaSource = some source' → (∀ ap ∈ source'.audioQueue, ap.data ≠ []) →
      s' = u.deliver env now source' vp → u.log = s.log ++ marks → audioPackets marks = [] →
      emittedPackets .audio l = [] ∧ AudioNext m₀ stamp.1 s' ∨ FirstIs .audio stamp l := by
    intro source' u vp marks hs hu hm hqueue heq hmarks hnone
    obtain ⟨tail, hlog', -⟩ := deliver_spec env now source' vp u
    have hfirst := audioNext_deliver hstamp hu hm hqueue hlog'
    have hl : l = marks ++ .sending vp :: tail := by
      rw [heq, hlog', hmarks, List.append_assoc] at hlog
      exact (List.append_cancel_left hlog).symm
    have hpackets : emittedPackets .audio l = audioPackets (.sending vp :: tail) := by
      rw [emittedPackets_eq_built (hout hs), hl]
      exact (audioPackets_append _ _).trans (by rw [hnone, List.nil_append])
    unfold FirstIs
    rw [hpackets, heq]
    exact hfirst
  cases hticks with
  | idle =>
      obtain ⟨pause, heq⟩ := notStreaming_eq now s
      rw [heq] at hlog ⊢
      exact .inl ⟨emitted_nil_of_log rfl hlog, h.of_same rfl rfl fun _ hm => hm⟩
  | passes _ hsource hp =>
      cases hp with
      | gated =>
          exact .inl ⟨emitted_nil_of_log rfl hlog, h.of_same rfl rfl fun _ hm => hm⟩
      | ended =>
          rw [← List.append_cancel_left hlog] at hsought
          exact absurd (List.mem_singleton.mpr rfl) hsought
      | skipped _ _ _ _ _ _ hread =>
          exact .inl ⟨emitted_nil_of_log rfl hlog, h.read hsource hread rfl rfl rfl⟩
      | stopped _ _ _ _ _ _ hread =>
          exact .inl ⟨emitted_nil_of_log rfl hlog, h.read hsource hread rfl rfl rfl⟩
  | @waits _ _ vp t _ hsource hh =>
      obtain ⟨hnext, -⟩ := h.holds hsource hh (hfilled _ hsource)
      refine .inl ⟨?_, hnext.of_same rfl rfl fun _ hm => hm⟩
      change t.log ++ _ = _ at hlog
      rw [hh.log] at hlog
      rw [← List.append_cancel_left hlog]
      rfl
  | @starts _ source' vp t hs hsource hh =>
      obtain ⟨hnext, hqueue⟩ := h.holds hsource hh (hfilled _ hsource)
      refine hdeliver ((t.anchorAt now source' vp).emit (.timed vp 0)) vp
        [.anchored vp now, .timed vp 0] hs (hnext.of_same rfl rfl fun _ hm => hm)
        (hh.facts hsource).1 hqueue rfl ?_ rfl
      rw [← hh.log]
      exact List.append_assoc t.log [.anchored vp now] [.timed vp 0]
  | @sends _ source' vp t hs hsource hh =>
      obtain ⟨hnext, hqueue⟩ := h.holds hsource hh (hfilled _ hsource)
      refine hdeliver (t.emit (.timed vp (t.mediaTicks vp))) vp [.timed vp (t.mediaTicks vp)] hs
        (hnext.of_same rfl rfl fun _ hm => hm) (hh.facts hsource).1 hqueue rfl ?_ rfl
      rw [← hh.log]
      rfl

/-! ## Requests -/

/-- The step leaves alone what the first packets depend on; the source may be dropped. -/
structure LeavesFirst (s s' : Session (MediaSource D B)) : Prop where
  firstFrame : s'.firstFrame = s.firstFrame
  rtpSeq : s'.rtpSeq = s.rtpSeq
  pendingAp : s'.pendingAp = s.pendingAp
  audioRtpSeq : s'.audioRtpSeq = s.audioRtpSeq
  source : ∀ m, s'.mediaSource = some m → s.mediaSource = some m

/-- A request that does not seek and opens no source. -/
theorem handleNext_leaves {env : Env (MediaSource D B)} {req : RTSPRequest}
    (rest : List RTSPRequest) {s : Session (MediaSource D B)}
    (hplay : req.method = ascii "PLAY" → s.state = .init ∨ s.state = .paused)
    (hopen : req.method = ascii "DESCRIBE" → ¬ Openable env s.mediaRoot req.url) :
    LeavesFirst s (sessionOf (s.handleNext env req rest)) := by
  unfold handleNext
  by_cases hdescribe : req.method = ascii "DESCRIBE"
  · rw [handleRequest_describe env _ hdescribe]
    have hstream :=
      (aside_handleDescribe env req ({ s with cmdQueue := rest }.emit (.request req))).stream
    obtain ⟨-, -, -, hsource⟩ :=
      handleDescribe_spec env req ({ s with cmdQueue := rest }.emit (.request req))
    refine ⟨congrArg Stream.firstFrame hstream, congrArg Stream.rtpSeq hstream,
      congrArg Stream.pendingAp hstream, congrArg Stream.audioRtpSeq hstream, fun m hm => ?_⟩
    exact absurd (hsource.mp (Option.isSome_iff_exists.mpr ⟨m, hm⟩)) (hopen hdescribe)
  · cases serves_handleRequest env ({ s with cmdQueue := rest }.emit (.request req)) hdescribe with
    | aside ha =>
        have hstream := ha.stream
        have hsource := congrArg Stream.source hstream
        exact ⟨congrArg Stream.firstFrame hstream, congrArg Stream.rtpSeq hstream,
          congrArg Stream.pendingAp hstream, congrArg Stream.audioRtpSeq hstream,
          fun m hm => hsource.symm.trans hm⟩
    | scales h hinit hpaused => exact ((hplay h).elim hinit hpaused).elim
    | plays _ _ h hinit hpaused => exact ((hplay h).elim hinit hpaused).elim

/-- The RTP-Info header of the answer that was given last. -/
def Session.rtpInfoAnswered (s : Session M) : Option Bytes :=
  match s.log.getLast? with
  | some (.response resp) => resp.headers.lookup (ascii "RTP-Info")
  | _ => none

omit [FFmpeg D B] in
theorem text_ne_nil (a : Announcement) (url : Bytes) : a.text url ≠ [] := by
  unfold Announcement.text rtpInfoEntry
  exact List.cons_ne_nil 117 _

/-- After a fresh PLAY that is answered. -/
structure AnnouncesFirst (m₀ : MediaSource D B) (a : Announcement) (url : Bytes)
    (s : Session (MediaSource D B)) : Prop where
  answer : s.rtpInfoAnswered = some (a.text url)
  firstFrame : s.firstFrame = true
  rtpSeq : s.rtpSeq = a.video.1
  pendingAp : s.pendingAp = none
  audioRtpSeq : ∀ stamp, a.audio = some stamp → s.audioRtpSeq = stamp.1
  source : s.mediaSource = some m₀.peekNextVideoRTPTimestamp.2

theorem announcesFirst_freshPlay {s : Session (MediaSource D B)} {source : MediaSource D B}
    (env : Env (MediaSource D B)) {req : RTSPRequest} (rest : List RTSPRequest)
    (hplays : PlaysAfresh req s) (hsource : s.mediaSource = some source) :
    AnnouncesFirst (source.seekToSeconds (playStart env req))
      (s.announced (source.seekToSeconds (playStart env req))) req.url
      (sessionOf (s.handleNext env req rest)) := by
  unfold handleNext
  obtain ⟨stop, range, heq⟩ :=
    freshPlay_eq env (s := { s with cmdQueue := rest }.emit (.request req)) hplays
  rw [heq]
  -- the session once it was sought
  obtain ⟨u, hu, hready⟩ : ∃ u : Session (MediaSource D B),
      ({ s with cmdQueue := rest }.emit (.request req)).freshPlay (playStart env req) stop = u ∧
      (u.firstFrame = true ∧ u.rtpSeq = s.rtpSeq ∧ u.pendingAp = none ∧
        u.audioRtpSeq = s.audioRtpSeq ∧ u.audioTransportReady = s.audioTransportReady ∧
        u.mediaSource = some (source.seekToSeconds (playStart env req))) := by
    refine ⟨_, rfl, ?_⟩
    unfold freshPlay
    rcases seekAndReset_eq (playStart env req) false
      ({ s with cmdQueue := rest }.emit (.request req)) with ⟨hnone, -⟩ | ⟨source', hsome, heq⟩
    · exact absurd (hsource.symm.trans hnone) (by simp)
    · obtain rfl := Option.some.inj (hsource.symm.trans hsome)
      rw [heq, soughtSource_unadjusted]
      exact ⟨rfl, rfl, rfl, rfl, rfl, rfl⟩
  obtain ⟨hfirst, hseq, hap, haseq, haudio, hm⟩ := hready
  have hsame : u.announced (source.seekToSeconds (playStart env req)) =
      s.announced (source.seekToSeconds (playStart env req)) := by
    unfold announced
    rw [hseq, haseq, haudio]
  rw [hu, rtpInfo_text req.url hm, hsame, rtpInfo_eq, hm]
  refine ⟨?_, hfirst, hseq, hap, fun stamp hstamp => ?_, rfl⟩
  · unfold rtpInfoAnswered playDone sendResponse emit
    rw [List.getLast?_concat]
    exact lookup_play _ _ _ _ (text_ne_nil _ _)
  · unfold announced at hstamp
    dsimp only at hstamp
    split at hstamp
    · rw [← Option.some.inj hstamp]
      exact haseq
    · cases hstamp

/-! ## Runs -/

/-- There is no further PLAY that seeks, no end of the source and no end of the range. A PLAY in
    INIT is refused and one in PAUSED resumes. -/
def PlaysOn : Handled (MediaSource D B) → SessionAct (MediaSource D B) → Prop
  | .ok s, .handle _ => ∀ req ∈ s.cmdQueue.head?,
      req.method = ascii "PLAY" → s.state = .init ∨ s.state = .paused
  | .ok s, .pace env now => .sought ∉ (s.pace env now).log.drop s.log.length ∧
      (s.pace env now).state = s.state
  | _, _ => True

/-- The outbox is below its watermark. -/
def BelowWatermark : Handled (MediaSource D B) → SessionAct (MediaSource D B) → Prop
  | _, .pace env _ => env.LowOutbox
  | _, _ => True

theorem along_belowWatermark {t : Handled (MediaSource D B)}
    {post : List (SessionAct (MediaSource D B))}
    (h : ∀ env now, .pace env now ∈ post → env.LowOutbox) :
    Lts.Along sessionStep BelowWatermark t post := by
  refine Lts.along_of_forall (fun a ha u => ?_) t
  cases a with
  | pace env now => exact h env now ha
  | command => trivial
  | handle => trivial

/-- The audio packets are not empty. -/
def AudioFlows : Handled (MediaSource D B) → SessionAct (MediaSource D B) → Prop
  | .ok s, .pace _ _ => ∀ m ∈ s.mediaSource, AudioFilled m
  | _, _ => True

/-- The condition on a step before the first packet of the track: no DESCRIBE opens a source, and
    a tick that streams can send the packets of the track. -/
def StaysAnnounced (base : Nat) (track : Track) :
    Handled (MediaSource D B) → SessionAct (MediaSource D B) → Prop
  | .ok s, .handle env => emittedPackets track (eventsSince base s) = [] →
      ∀ req ∈ s.cmdQueue.head?, req.method = ascii "DESCRIBE" → ¬ Openable env s.mediaRoot req.url
  | .ok s, .pace _ _ => emittedPackets track (eventsSince base s) = [] → s.Streaming →
      s.GetsOut track
  | _, _ => True

/-- The track since the answer: no packet yet and `next`, or the first one was the one announced. -/
structure AwaitsFirst (next : Session (MediaSource D B) → Prop) (track : Track)
    (stamp : UInt16 × UInt32) (base : Nat) (s : Session (MediaSource D B)) : Prop where
  len : base ≤ s.log.length
  first : emittedPackets track (eventsSince base s) = [] ∧ next s ∨
    FirstIs track stamp (eventsSince base s)

section

variable {next : Session (MediaSource D B) → Prop} {track : Track} {stamp : UInt16 × UInt32}
  {base : Nat}

omit [FFmpeg D B] in
theorem AwaitsFirst.append {s s' : Session (MediaSource D B)} {l : List Event}
    (h : AwaitsFirst next track stamp base s) (hlog : s'.log = s.log ++ l)
    (hl : emittedPackets track (eventsSince base s) = [] → next s →
      emittedPackets track l = [] ∧ next s' ∨ FirstIs track stamp l) :
    AwaitsFirst next track stamp base s' := by
  refine ⟨?_, ?_⟩
  · rw [hlog, List.length_append]
    exact Nat.le_add_right_of_le h.len
  · rw [eventsSince_of_log h.len hlog]
    rcases h.first with ⟨hnone, hnext⟩ | hfirst
    · unfold FirstIs
      rw [emittedPackets_append, hnone, List.nil_append]
      exact hl hnone hnext
    · exact .inr (hfirst.append l)

/-- One step: `next` is kept by what leaves the first packets alone, and by a tick that sends
    none. -/
theorem awaitsFirst_step (hkeep : ∀ s s', next s → LeavesFirst s s' → next s')
    (htick : ∀ (env : Env (MediaSource D B)) now s s' l, next s → Ticks env now s s' →
      s'.log = s.log ++ l → .sought ∉ l → s'.state = s.state →
      (∀ m ∈ s.mediaSource, AudioFilled m) → (s.Streaming → ∀ rtp, .dropped track rtp ∉ l) →
      emittedPackets track l = [] ∧ next s' ∨ FirstIs track stamp l)
    {t t' : Handled (MediaSource D B)} {a : SessionAct (MediaSource D B)}
    (hI : AwaitsFirst next track stamp base (sessionOf t))
    (hC : (PlaysOn t a ∧ BelowWatermark t a) ∧ AudioFlows t a ∧ StaysAnnounced base track t a)
    (h : sessionStep t a = some t') : AwaitsFirst next track stamp base (sessionOf t') := by
  obtain ⟨⟨hquiet, hlow⟩, hfilled, hstays⟩ := hC
  cases t with
  | error s => cases h
  | ok s =>
      cases a with
      | command req =>
          obtain rfl := Option.some.inj h
          exact hI.append (List.append_nil _).symm fun _ hnext =>
            .inl ⟨rfl, hkeep _ _ hnext ⟨rfl, rfl, rfl, rfl, fun _ hm => hm⟩⟩
      | handle env =>
          obtain ⟨req, rest, hq, rfl⟩ := handle_cases h
          obtain ⟨l, hl⟩ := handleNext_log env req rest s
          have hhead : req ∈ s.cmdQueue.head? := by
            rw [hq]
            rfl
          refine hI.append hl fun hnone hnext => .inl ⟨?_, hkeep _ _ hnext ?_⟩
          · exact emittedPackets_nil (handleNext_noPackets env req rest hl)
          · exact handleNext_leaves rest (hquiet req hhead) (hstays hnone req hhead)
      | pace env now =>
          obtain rfl := Option.some.inj h
          obtain ⟨l, hl⟩ := (ticks_pace env now s).log
          obtain ⟨hsought, hstate⟩ := hquiet
          rw [hl, List.drop_left] at hsought
          refine hI.append hl fun hnone hnext =>
            htick env now s _ l hnext (ticks_pace env now s) hl hsought hstate hfilled fun hs => ?_
          obtain ⟨l', hl', hkept⟩ := (emits_pace env now s).1.gets_out hlow (hstays hnone hs)
          rw [List.append_cancel_left (hl.symm.trans hl')]
          exact hkept

/-- A whole run. -/
theorem firstIs_of_run (hkeep : ∀ s s', next s → LeavesFirst s s' → next s')
    (htick : ∀ (env : Env (MediaSource D B)) now s s' l, next s → Ticks env now s s' →
      s'.log = s.log ++ l → .sought ∉ l → s'.state = s.state →
      (∀ m ∈ s.mediaSource, AudioFilled m) → (s.Streaming → ∀ rtp, .dropped track rtp ∉ l) →
      emittedPackets track l = [] ∧ next s' ∨ FirstIs track stamp l)
    {t₀ t : Handled (MediaSource D B)} {post : List (SessionAct (MediaSource D B))}
    (hstart : next (sessionOf t₀)) (hrun : Lts.run sessionStep t₀ post = some t)
    (hquiet : Lts.Along sessionStep PlaysOn t₀ post)
    (hlow : Lts.Along sessionStep BelowWatermark t₀ post)
    (hfilled : Lts.Along sessionStep AudioFlows t₀ post)
    (hstays : Lts.Along sessionStep (StaysAnnounced (sessionOf t₀).log.length track) t₀ post)
    (hsent : emittedPackets track (eventsSince (sessionOf t₀).log.length (sessionOf t)) ≠ []) :
    FirstIs track stamp (eventsSince (sessionOf t₀).log.length (sessionOf t)) := by
  have hbegin : AwaitsFirst next track stamp (sessionOf t₀).log.length (sessionOf t₀) := by
    refine ⟨le_refl _, .inl ⟨?_, hstart⟩⟩
    unfold eventsSince
    rw [List.drop_length]
    rfl
  have hend := Lts.run_invariant
    (I := fun t => AwaitsFirst next track stamp (sessionOf t₀).log.length (sessionOf t))
    (fun _ _ _ hI hC h => awaitsFirst_step hkeep htick hI hC h) hbegin
    (Lts.along_and (Lts.along_and hquiet hlow) (Lts.along_and hfilled hstays)) hrun
  exact hend.first.resolve_left fun h => hsent h.1

end

/-- The first packet after the seek is a key frame with a NAL unit. -/
def FirstIsKey (m : MediaSource D B) : Prop :=
  ∃ vp ∈ m.readPacket.1, vp.isKeyFrame = true ∧ vp.nals ≠ []

/-- The condition on a fresh PLAY: the first frame has a NAL unit that is sent, and when the
    source is rewound because `av_seek_frame` failed, the audio is at the offset that is
    announced. -/
def FirstReady (start : Rat) (source : MediaSource D B) (s : Session (MediaSource D B)) : Prop :=
  (∀ vp ∈ (source.seekToSeconds start).readPacket.1,
    nalList (source.seekToSeconds start).streamInfo vp ≠ []) ∧
  ((s.announced (source.seekToSeconds start)).audio.isSome = true →
    MediaSource.Rewinds source (.seekToSeconds start) →
      (source.seekToSeconds start).AudioAtOffset)

/-- **RTP-Info announces the first packets**, over every run after a fresh PLAY in any state, up
    to the next PLAY that seeks, the end of the source and the end of the range: the answer gives
    for each track it lists the sequence number and the timestamp of the first packet that leaves
    the server, when the first frame has a NAL unit that is sent, a source that is rewound has its
    audio at the offset, and until that packet no DESCRIBE opens a source and the packets of the
    track get out. -/
theorem first_packets_announced (s : Session (MediaSource D B)) (source : MediaSource D B)
    (env : Env (MediaSource D B)) (fresh : RTSPRequest) (t₀ t : Handled (MediaSource D B))
    (post : List (SessionAct (MediaSource D B))) (hsource : s.mediaSource = some source)
    (hfresh : s.cmdQueue.head? = some fresh) (hplays : PlaysAfresh fresh s)
    (hkey : FirstIsKey (source.seekToSeconds (playStart env fresh)))
    (hready : FirstReady (playStart env fresh) source s)
    (hstart : sessionStep (.ok s) (.handle env) = some t₀)
    (hrun : Lts.run sessionStep t₀ post = some t)
    (hquiet : Lts.Along sessionStep PlaysOn t₀ post)
    (hlow : Lts.Along sessionStep BelowWatermark t₀ post)
    (hfilled : Lts.Along sessionStep AudioFlows t₀ post)
    (hstays : ∀ track,
      (s.announced (source.seekToSeconds (playStart env fresh))).entry track ≠ none →
        Lts.Along sessionStep (StaysAnnounced (sessionOf t₀).log.length track) t₀ post) :
    (sessionOf t₀).rtpInfoAnswered =
        some ((s.announced (source.seekToSeconds (playStart env fresh))).text fresh.url) ∧
      FirstPackets (s.announced (source.seekToSeconds (playStart env fresh)))
        (eventsSince (sessionOf t₀).log.length (sessionOf t)) := by
  obtain ⟨req, rest, hq, rfl⟩ := handle_cases hstart
  obtain rfl : req = fresh := by
    rw [hq] at hfresh
    exact Option.some.inj hfresh
  have hplay := announcesFirst_freshPlay env rest hplays hsource
  generalize s.handleNext env req rest = t₀ at hplay hrun hquiet hlow hfilled hstays ⊢
  obtain ⟨vp, hvp, hiskey, hnals⟩ := hkey
  obtain ⟨hpeek, hslot⟩ := MediaSource.peek_of_readPacket hvp
  refine ⟨hplay.answer, fun track stamp hentry hsent => ?_⟩
  have hstays := hstays track (by rw [hentry]; simp)
  cases track with
  | video =>
      obtain rfl := Option.some.inj hentry
      have hnext : VideoNext (s.announced (source.seekToSeconds (playStart env req))).video
          (sessionOf t₀) := by
        refine ⟨hplay.firstFrame, hplay.rtpSeq, fun m hm => ⟨vp, ?_⟩⟩
        obtain rfl := Option.some.inj (hplay.source.symm.trans hm)
        refine ⟨hslot, hpeek.symm, hiskey, hnals, ?_⟩
        rw [MediaSource.streamInfo_peek]
        exact hready.1 vp hvp
      exact firstIs_of_run
        (fun _ _ h hl => h.of_same hl.firstFrame hl.rtpSeq hl.source)
        (fun _ _ _ _ _ h ht hlog hsought hstate _ hout =>
          videoNext_ticks h ht hlog hsought hstate hout)
        hnext hrun hquiet hlow hfilled hstays hsent
  | audio =>
      have haudio : (s.announced (source.seekToSeconds (playStart env req))).audio = some stamp :=
        hentry
      have hoffset : stamp.2 = (source.seekToSeconds (playStart env req)).audioRtpOffset := by
        unfold announced at haudio
        dsimp only at haudio
        split at haudio
        · rw [← Option.some.inj haudio]
          exact MediaSource.audioRtpOffset_peek _
        · cases haudio
      have hat : (source.seekToSeconds (playStart env req)).AudioAtOffset := by
        by_cases hrewinds : MediaSource.Rewinds source (.seekToSeconds (playStart env req))
        · exact hready.2 (by rw [haudio]; rfl) hrewinds
        · exact MediaSource.audioAtOffset_run hrewinds
      have hnext : AudioNext (source.seekToSeconds (playStart env req)) stamp.1
          (sessionOf t₀) := by
        refine ⟨hplay.audioRtpSeq stamp haudio, fun ap hap => ?_, fun m hm => ?_⟩
        · rw [hplay.pendingAp] at hap
          cases hap
        · obtain rfl := Option.some.inj (hplay.source.symm.trans hm)
          rw [hplay.pendingAp]
          exact ⟨_, MediaSource.Pulls.refl.peek⟩
      exact firstIs_of_run
        (fun _ _ h hl => h.of_same hl.audioRtpSeq hl.pendingAp hl.source)
        (fun _ _ _ _ _ h ht hlog hsought _ hfilled hout =>
          audioNext_ticks (fun _ _ _ _ hpulls => (hat.pulls hpulls rfl).trans hoffset.symm) h ht
            hlog hsought hfilled hout)
        hnext hrun hquiet hlow hfilled hstays hsent

end

/-! ## Runs on files -/

section

variable {D B : Type} [FFmpeg D B]

instance (m : MediaSource D B) : Decidable (AudioFilled m) :=
  inferInstanceAs (Decidable (∀ ap ∈ _, _))

instance (m : MediaSource D B) : Decidable (FirstIsKey m) :=
  inferInstanceAs (Decidable (∃ vp ∈ m.readPacket.1, _))

instance (track : Track) (stamp : UInt16 × UInt32) (l : List Event) :
    Decidable (FirstIs track stamp l) := inferInstanceAs (Decidable (_ = _))

instance (env : Env (MediaSource D B)) (root url : Bytes) : Decidable (Openable env root url) :=
  inferInstanceAs (Decidable (_ ∧ _ ∧ _ ∧ _ ∧ _))

instance decidablePlaysOn : ∀ (t : Handled (MediaSource D B)) (a : SessionAct (MediaSource D B)),
    Decidable (PlaysOn t a)
  | .ok s, .handle _ => inferInstanceAs (Decidable (∀ req ∈ s.cmdQueue.head?, _))
  | .ok _, .pace _ _ => inferInstanceAs (Decidable (_ ∧ _))
  | .ok _, .command _ => isTrue trivial
  | .error _, _ => isTrue trivial

instance decidableAudioFlows : ∀ (t : Handled (MediaSource D B))
    (a : SessionAct (MediaSource D B)), Decidable (AudioFlows t a)
  | .ok s, .pace _ _ => inferInstanceAs (Decidable (∀ m ∈ s.mediaSource, AudioFilled m))
  | .ok _, .command _ => isTrue trivial
  | .ok _, .handle _ => isTrue trivial
  | .error _, _ => isTrue trivial

instance decidableStaysAnnounced (base : Nat) (track : Track) :
    ∀ (t : Handled (MediaSource D B)) (a : SessionAct (MediaSource D B)),
      Decidable (StaysAnnounced base track t a)
  | .ok s, .handle _ => inferInstanceAs (Decidable (_ → ∀ req ∈ s.cmdQueue.head?, _))
  | .ok _, .pace _ _ => inferInstanceAs (Decidable (_ → _))
  | .ok _, .command _ => isTrue trivial
  | .error _, _ => isTrue trivial

end

/-- The run of a fresh PLAY: up to it, the PLAY, and after it. -/
def playedRun (env : Env (MediaSource PacketList Unit))
    (before post : List (SessionAct (MediaSource PacketList Unit))) :
    Option (Handled (MediaSource PacketList Unit) × Handled (MediaSource PacketList Unit) ×
      Handled (MediaSource PacketList Unit)) :=
  (Lts.run sessionStep (.ok client) before).bind fun r =>
    (sessionStep r (.handle env)).bind fun t₀ =>
      (Lts.run sessionStep t₀ post).map fun t => (r, t₀, t)

/-- The requests for the file with sound up to PLAY. -/
def untilSound : List (SessionAct (MediaSource PacketList Unit)) :=
  ((soundRequests.take 3).filterMap RTSPRequest.parse).flatMap
    (fun req => [.command req, .handle (soundFile [1, 2, 3])]) ++ [.command playRequest]

/-- A pause before the first tick that streams, then both frames. -/
def pausedStart : List (SessionAct (MediaSource PacketList Unit)) :=
  [.command pauseRequest, .handle (soundFile [1, 2, 3]), .pace (soundFile [1, 2, 3]) 1,
    .command playRequest, .handle (soundFile [1, 2, 3]), .pace (soundFile [1, 2, 3]) 2,
    .pace (soundFile [1, 2, 3]) 50000000]

/-- What was computed of the run, with its source. -/
def PlayedFrom (env : Env (MediaSource PacketList Unit)) (source : MediaSource PacketList Unit)
    (r t₀ : Handled (MediaSource PacketList Unit))
    (post : List (SessionAct (MediaSource PacketList Unit))) : Prop :=
  (sessionOf r).cmdQueue.head? = some playRequest ∧ PlaysAfresh playRequest (sessionOf r) ∧
    FirstIsKey (source.seekToSeconds (playStart env playRequest)) ∧
    Lts.Along sessionStep PlaysOn t₀ post ∧ Lts.Along sessionStep AudioFlows t₀ post

instance (env : Env (MediaSource PacketList Unit)) (source : MediaSource PacketList Unit)
    (r t₀ : Handled (MediaSource PacketList Unit))
    (post : List (SessionAct (MediaSource PacketList Unit))) :
    Decidable (PlayedFrom env source r t₀ post) :=
  inferInstanceAs (Decidable (_ ∧ _ ∧ _ ∧ _ ∧ _))

theorem playedRun_spec {env : Env (MediaSource PacketList Unit)}
    {before post : List (SessionAct (MediaSource PacketList Unit))}
    {P : MediaSource PacketList Unit → Handled (MediaSource PacketList Unit) →
      Handled (MediaSource PacketList Unit) → Handled (MediaSource PacketList Unit) → Bool}
    (h : (playedRun env before post).map (fun q => Except.isOk q.1 &&
      (sessionOf q.1).mediaSource.any fun source => P source q.1 q.2.1 q.2.2) = some true) :
    ∃ s source t₀ t, Lts.run sessionStep (.ok client) before = some (.ok s) ∧
      s.mediaSource = some source ∧ sessionStep (.ok s) (.handle env) = some t₀ ∧
      Lts.run sessionStep t₀ post = some t ∧ P source (.ok s) t₀ t = true := by
  obtain ⟨⟨r, t₀, t⟩, hrun, hfacts⟩ := Option.map_eq_some_iff.mp h
  obtain ⟨r', hr, hrest⟩ := Option.bind_eq_some_iff.mp hrun
  obtain ⟨t₀', ht₀, hrest⟩ := Option.bind_eq_some_iff.mp hrest
  obtain ⟨t', ht, heq⟩ := Option.map_eq_some_iff.mp hrest
  cases heq
  obtain ⟨hok, hany⟩ := Bool.and_eq_true_iff.mp hfacts
  obtain ⟨source, hsource, hP⟩ := (Option.any_eq_true _ _).mp hany
  cases r with
  | error s => cases hok
  | ok s => exact ⟨s, source, t₀, t, hr, hsource, ht₀, ht, hP⟩

/-- The packets of the first frame and the audio packet are the ones announced. -/
theorem first_packets_announced_sound : ∃ s source t₀ t,
    Lts.run sessionStep (.ok client) untilSound = some (.ok s) ∧ s.mediaSource = some source ∧
      sessionStep (.ok s) (.handle (soundFile [1, 2, 3])) = some t₀ ∧
      Lts.run sessionStep t₀ pausedStart = some t ∧
      (emittedPackets .video (eventsSince (sessionOf t₀).log.length (sessionOf t))).length = 4 ∧
      (emittedPackets .audio (eventsSince (sessionOf t₀).log.length (sessionOf t))).length = 1 ∧
      FirstPackets (s.announced (source.seekToSeconds 0))
        (eventsSince (sessionOf t₀).log.length (sessionOf t)) := by
  obtain ⟨s, source, t₀, t, hs, hsource, ht₀, ht, hP⟩ := playedRun_spec
    (P := fun source r t₀ t => decide (PlayedFrom (soundFile [1, 2, 3]) source r t₀ pausedStart ∧
      (∀ vp ∈ (source.seekToSeconds 0).readPacket.1,
        nalList (source.seekToSeconds 0).streamInfo vp ≠ []) ∧
      (FFmpeg.seekFrame Unit (MediaSource.targetTs 0 source.timeBase) source.fmtCtx).1 = true ∧
      Lts.Along sessionStep (StaysAnnounced (sessionOf t₀).log.length .video) t₀ pausedStart ∧
      Lts.Along sessionStep (StaysAnnounced (sessionOf t₀).log.length .audio) t₀ pausedStart ∧
      (emittedPackets .video (eventsSince (sessionOf t₀).log.length (sessionOf t))).length = 4 ∧
      (emittedPackets .audio (eventsSince (sessionOf t₀).log.length (sessionOf t))).length = 1))
    (show (playedRun (soundFile [1, 2, 3]) untilSound pausedStart).map _ = _ by decide +kernel)
  obtain ⟨⟨hfresh, hplays, hkey, hon, hfilled⟩, hnals, hseek, hvideo, haudio, hlen, hlen'⟩ :=
    of_decide_eq_true hP
  have hready : FirstReady (playStart (soundFile [1, 2, 3]) playRequest) source s :=
    ⟨hnals, fun _ hrewinds => Bool.noConfusion (hseek.symm.trans hrewinds.2)⟩
  have hlow : Lts.Along sessionStep BelowWatermark t₀ pausedStart := by
    refine along_belowWatermark fun env now hmem k => ?_
    simp [pausedStart] at hmem
    rcases hmem with ⟨rfl, -⟩ | ⟨rfl, -⟩ | ⟨rfl, -⟩ <;> exact Nat.zero_le _
  refine ⟨s, source, t₀, t, hs, hsource, ht₀, ht, hlen, hlen', ?_⟩
  exact (first_packets_announced s source (soundFile [1, 2, 3]) playRequest t₀ t pausedStart hsource
    hfresh hplays hkey hready ht₀ ht hon hlow hfilled fun track _ =>
      match track with
      | .video => hvideo
      | .audio => haudio).2

/-- A SETUP of the audio track in this way. -/
def audioSetup (transport : String) : RTSPRequest :=
  { setupRequest transport with url := ascii "rtsp://h/a.mp4/trackID=1" }

/-- A SETUP of the audio over UDP that is refused, the tick of the first frame, a SETUP of the audio
    over TCP and the tick of the second frame. -/
def lostStart : List (SessionAct (MediaSource PacketList Unit)) :=
  [.command (audioSetup "RTP/AVP;unicast"), .handle (machine threeFrames),
    .pace (machine threeFrames) 1, .command (audioSetup "RTP/AVP/TCP;unicast;interleaved=2-3"),
    .handle (machine threeFrames), .pace (machine threeFrames) 1000000000]

/-- The packets of the first frame are dropped, so that the first one to leave the server is the
    fourth and belongs to the second frame. -/
theorem lostStart_not_announced : ∃ s source t₀ t,
    Lts.run sessionStep (.ok client) (untilPlay threeFrames) = some (.ok s) ∧
      s.mediaSource = some source ∧
      sessionStep (.ok s) (.handle (machine threeFrames)) = some t₀ ∧
      Lts.run sessionStep t₀ lostStart = some t ∧
      PlayedFrom (machine threeFrames) source (.ok s) t₀ lostStart ∧
      Lts.Along sessionStep BelowWatermark t₀ lostStart ∧
      (sessionOf t₀).rtpInfoAnswered =
        some (ascii "url=rtsp://h/a.mp4/trackID=0;seq=0;rtptime=0") ∧
      (s.announced (source.seekToSeconds 0)).video = (0, 0) ∧
      ((emittedPackets .video (eventsSince (sessionOf t₀).log.length (sessionOf t))).map stampOf) =
        [some (3, 3600)] ∧
      ¬ FirstPackets (s.announced (source.seekToSeconds 0))
        (eventsSince (sessionOf t₀).log.length (sessionOf t)) := by
  obtain ⟨s, source, t₀, t, hs, hsource, ht₀, ht, hP⟩ := playedRun_spec
    (P := fun source r t₀ t => decide (PlayedFrom (machine threeFrames) source r t₀ lostStart ∧
      (sessionOf t₀).rtpInfoAnswered =
        some (ascii "url=rtsp://h/a.mp4/trackID=0;seq=0;rtptime=0") ∧
      ((sessionOf r).announced (source.seekToSeconds 0)).video = (0, 0) ∧
      ((emittedPackets .video (eventsSince (sessionOf t₀).log.length (sessionOf t))).map stampOf) =
        [some (3, 3600)]))
    (show (playedRun (machine threeFrames) (untilPlay threeFrames) lostStart).map _ = _ by
      decide +kernel)
  obtain ⟨hplayed, hanswer, hvideo, hstamps⟩ := of_decide_eq_true hP
  have hlow : Lts.Along sessionStep BelowWatermark t₀ lostStart := by
    refine along_belowWatermark fun env now hmem k => ?_
    simp [lostStart] at hmem
    rcases hmem with ⟨rfl, -⟩ | ⟨rfl, -⟩ <;> exact Nat.zero_le _
  refine ⟨s, source, t₀, t, hs, hsource, ht₀, ht, hplayed, hlow, hanswer, hvideo, hstamps,
    fun h => ?_⟩
  obtain ⟨rtp, rest, hrtp⟩ := List.exists_cons_of_ne_nil
    (show emittedPackets .video (eventsSince (sessionOf t₀).log.length (sessionOf t)) ≠ [] by
      intro hnil
      rw [hnil] at hstamps
      cases hstamps)
  have hfirst := h .video (0, 0) (congrArg some hvideo) (by rw [hrtp]; exact List.cons_ne_nil _ _)
  unfold FirstIs at hfirst
  rw [hrtp] at hstamps hfirst
  obtain ⟨hstamp, -⟩ := List.cons.inj hstamps
  exact absurd (hfirst.symm.trans hstamp) (by decide)

end RtspServer
