/-
  What a session pushes to `outbox_` in its runs, and whether a client can take it apart again.

  The handlers answer with legible responses: all that comes from outside into a header is the URL
  of a request that was parsed, the session id and the date. The video packets are cut by
  `H264Packetizer` and always fit their frame; an audio packet is as long as the file has it.

  `outbox_decodable`: a client gets back what was pushed in every run whose ticks over TCP have no
  audio packet at hand of more than 65519 bytes, 65535 less the 12 bytes of the RTP header and the
  4 of the AU headers.
-/
import RtspServer.Server.Replies
import RtspServer.Server.PacerEmits

namespace RtspServer

open ByteString Decimal StringUtils Lines Session IMediaSource

variable {M : Type}

/-! ## Requests -/

/-- The session pushes legible responses and frames, and frames that fit if `P` holds. -/
structure Pushes (P : Prop) (s s' : Session M) : Prop where
  sessionId : s'.sessionId = s.sessionId
  log : ∃ l, s'.log = s.log ++ l ∧ ∀ e ∈ l, e.Framed ∧ (P → e.Fits)

variable {P : Prop}

theorem Pushes.of_same {s s' : Session M} (hid : s'.sessionId = s.sessionId)
    (hlog : s'.log = s.log) : Pushes P s s' :=
  ⟨hid, [], by rw [hlog, List.append_nil], fun _ he => nomatch he⟩

theorem Pushes.trans {s t u : Session M} (h : Pushes P s t) (h' : Pushes P t u) : Pushes P s u := by
  obtain ⟨l, hl, hok⟩ := h.log
  obtain ⟨l', hl', hok'⟩ := h'.log
  exact ⟨h'.sessionId.trans h.sessionId, l ++ l', by rw [hl', hl, List.append_assoc],
    List.forall_mem_append.mpr ⟨hok, hok'⟩⟩

theorem Pushes.emit {s s' : Session M} (h : Pushes P s s') {e : Event}
    (he : e.Framed ∧ (P → e.Fits)) : Pushes P s (s'.emit e) :=
  h.trans ⟨rfl, [e], rfl, fun _ he' => by rw [List.mem_singleton.mp he']; exact he⟩

/-- Every request is answered legibly. -/
theorem Replies.pushes {env : Env M} {s s' : Session M} (h : Replies env s s')
    (hdate : 13 ∉ env.timestamp) : Pushes P s s' := by
  obtain ⟨l, hlog, hl⟩ := h.log
  refine ⟨h.sessionId, l, hlog, fun e he => ?_⟩
  rcases hl e he with rfl | ⟨resp, rfl, hbuilt⟩
  · exact ⟨trivial, fun _ => trivial⟩
  · exact ⟨hbuilt.legible hdate, fun _ => trivial⟩

/-! ## Ticks -/

theorem length_build (payload : Bytes) (pt : UInt8) (seq : UInt16) (ts ssrc : UInt32)
    (marker : Bool) : (RTPPacket.build payload pt seq ts ssrc marker).length = payload.length + 12 := by
  simp [RTPPacket.build]

/-- A packet is pushed as a frame, or is dropped. -/
theorem pushes_pushTCPFrame (env : Env M) (track : Track) (channel : Int) {rtp : Bytes}
    (h : P → rtp.length ≤ 0xFFFF) (s : Session M) :
    Pushes P s (s.pushTCPFrame env track channel rtp) := by
  have hload : ∀ close, Pushes P s { s with loads := s.loads + 1, closeAfterWrite := close } :=
    fun close => .of_same rfl rfl
  unfold pushTCPFrame
  split
  · exact (hload true).emit ⟨trivial, fun _ => trivial⟩
  · exact (hload s.closeAfterWrite).emit ⟨⟨channel, rtp, rfl⟩, h⟩

theorem pushes_sendDatagram (track : Track) (sender : Option UdpSender) (rtp : Bytes)
    (s : Session M) : Pushes P s (s.sendDatagram track sender rtp) := by
  have hrefl : Pushes P s s := .of_same rfl rfl
  unfold sendDatagram
  split <;> exact hrefl.emit ⟨trivial, fun _ => trivial⟩

/-- Video packets fit, since their payloads are cut. -/
theorem pushes_sendVideoRTP (env : Env M) {payload : Bytes} (hlen : payload.length ≤ kMtu)
    (ts : UInt32) (marker : Bool) (s : Session M) :
    Pushes P s (s.sendVideoRTP env payload ts marker) := by
  have hseq : Pushes P s { s with rtpSeq := s.rtpSeq + 1 } := .of_same rfl rfl
  unfold sendVideoRTP
  dsimp only
  split
  · refine hseq.trans (pushes_pushTCPFrame env .video _ (fun _ => ?_) _)
    rw [length_build]
    have : kMtu = 1400 := rfl
    omega
  · exact hseq.trans (pushes_sendDatagram ..)

/-- The longest audio frame whose packet 16 bits can say: there are 12 bytes of RTP header and
    4 of AU headers in front of it. -/
def kMaxAudio : Nat := 0xFFFF - 16

theorem pushes_sendOneAudio (env : Env M) {ap : AudioPacket} {s : Session M}
    (h : P → s.useTcp = true → ap.data.length ≤ kMaxAudio) : Pushes P s (s.sendOneAudio env ap) := by
  have hseq : Pushes P s { s with audioRtpSeq := s.audioRtpSeq + 1 } := .of_same rfl rfl
  unfold sendOneAudio sendAudioRTP
  dsimp only
  split
  · exact .of_same rfl rfl
  · split
    · next htcp =>
        refine hseq.trans (pushes_pushTCPFrame env .audio _ (fun hP => ?_) _)
        have hlen := h hP htcp
        have hmax : kMaxAudio = 65519 := rfl
        rw [length_build, audioPayload]
        simp only [List.length_cons]
        omega
    · exact hseq.trans (pushes_sendDatagram ..)

theorem framed_of_isNote {e : Event} (h : e.isNote = true) : e.Framed ∧ e.Fits := by
  cases e <;> first | exact ⟨trivial, trivial⟩ | cases h

variable [IMediaSource M]

/-- Over TCP no audio packet at hand is too long. -/
def Session.AudioFits (s : Session M) : Prop :=
  s.useTcp = true → ∀ ap ∈ s.audioAtHand, ap.data.length ≤ kMaxAudio

theorem Emits.pushes {env : Env M} {s s' : Session M} (h : Emits env s s')
    (hfits : P → s.AudioFits) :
    Pushes P s s' := by
  -- the transport is carried along, since whether an audio packet has to fit depends on it
  have key : Pushes P s s' ∧ s'.useTcp = s.useTcp := by
    induction h with
    | refl => exact ⟨.of_same rfl rfl, rfl⟩
    | notes _ hn ih =>
        obtain ⟨l, hlog, hnotes⟩ := hn.log
        have hpushes : Pushes P _ _ := ⟨congrArg Wire.sessionId hn.wire, l, hlog,
          fun e he =>
            ⟨(framed_of_isNote (hnotes e he)).1, fun _ => (framed_of_isNote (hnotes e he)).2⟩⟩
        exact ⟨ih.1.trans hpushes, (congrArg Wire.useTcp hn.wire).trans ih.2⟩
    | @video t _ payload ts marker hlen ih =>
        obtain ⟨loads, close, e, heq, -⟩ := sendVideoRTP_spec env payload ts marker t
        refine ⟨ih.1.trans (pushes_sendVideoRTP env hlen ts marker t), ?_⟩
        rw [heq]
        exact ih.2
    | @audio t _ ap hap ih =>
        obtain ⟨seq, loads, close, tail, heq, -⟩ := sendOneAudio_spec env ap t
        refine ⟨ih.1.trans (pushes_sendOneAudio env fun hP htcp => ?_), ?_⟩
        · exact hfits hP (ih.2.symm.trans htcp) ap hap
        · rw [heq]
          exact ih.2
  exact key.1

/-- A tick sends what a client can take apart. -/
theorem pushes_pace (env : Env M) (now : Int) {s : Session M}
    (h : P → s.Streaming → s.AudioFits) : Pushes P s (s.pace env now) := by
  by_cases hs : s.Streaming
  · exact (emits_pace env now s).1.pushes fun hP => h hP hs
  · have hticks := ticks_pace env now s
    generalize s.pace env now = s' at hticks ⊢
    cases hticks with
    | idle =>
        obtain ⟨pause, heq⟩ := notStreaming_eq now s
        rw [heq]
        exact .of_same rfl rfl
    | passes hs' => exact absurd hs' hs
    | waits hs' => exact absurd hs' hs
    | starts hs' => exact absurd hs' hs
    | sends hs' => exact absurd hs' hs

/-! ## Runs -/

/-- What comes from outside: the commands were parsed and the date is one line. -/
def Received : Handled M → SessionAct M → Prop
  | _, .command req => ∃ raw, RTSPRequest.parse raw = some req
  | _, .handle env => 13 ∉ env.timestamp
  | _, .pace _ _ => True

/-- A tick that streams over TCP has no audio packet at hand that is too long. -/
def AudioFitsTick : Handled M → SessionAct M → Prop
  | .ok s, .pace _ _ => s.Streaming → s.AudioFits
  | _, _ => True

/-- The session id and the commands are one line each. What was pushed are legible responses and
    frames, and frames that fit if `P` holds. -/
structure Tidy (P : Prop) (s : Session M) : Prop where
  sessionId : 13 ∉ s.sessionId
  commands : ∀ req ∈ s.cmdQueue, Free crlf req.url
  log : ∀ e ∈ s.log, e.Framed ∧ (P → e.Fits)

omit [IMediaSource M] in
theorem Tidy.pushes {s s' : Session M} (h : Tidy P s) (hr : Pushes P s s')
    (hqueue : ∀ req ∈ s'.cmdQueue, req ∈ s.cmdQueue) : Tidy P s' := by
  obtain ⟨l, hl, hok⟩ := hr.log
  refine ⟨by rw [hr.sessionId]; exact h.sessionId,
    fun req hreq => h.commands req (hqueue req hreq), ?_⟩
  rw [hl]
  exact List.forall_mem_append.mpr ⟨h.log, hok⟩

theorem tidy_step {t t' : Handled M} {a : SessionAct M} (hI : Tidy P (sessionOf t))
    (hC : Received t a ∧ (P → AudioFitsTick t a)) (h : sessionStep t a = some t') :
    Tidy P (sessionOf t') := by
  cases t with
  | error s => cases h
  | ok s =>
      cases a with
      | command req =>
          obtain rfl := Option.some.inj h
          obtain ⟨raw, hraw⟩ := hC.1
          refine ⟨hI.sessionId, fun req' hreq' => ?_, hI.log⟩
          rcases List.mem_append.mp hreq' with hreq' | hreq'
          · exact hI.commands req' hreq'
          · rw [List.mem_singleton.mp hreq']
            exact free_url hraw
      | handle env =>
          obtain ⟨req, rest, hq, rfl⟩ := handle_cases h
          have hurl : Free crlf req.url :=
            hI.commands req (by rw [sessionOf, hq]; exact List.mem_cons_self)
          have hnext : Pushes P s ({ s with cmdQueue := rest }.emit (.request req)) :=
            ⟨rfl, [.request req], rfl, by simp [Event.Framed, Event.Fits]⟩
          have hreplies : Replies env ({ s with cmdQueue := rest }.emit (.request req))
              (sessionOf (s.handleNext env req rest)) := replies_handleRequest hurl hI.sessionId
          have hpushes := hnext.trans (hreplies.pushes hC.1)
          refine hI.pushes hpushes fun req' hreq' => ?_
          have hqueue : (sessionOf (s.handleNext env req rest)).cmdQueue = rest :=
            (quiet_handleRequest env req _).cmdQueue
          rw [hqueue] at hreq'
          rw [sessionOf, hq]
          exact List.mem_cons_of_mem req hreq'
      | pace env now =>
          obtain rfl := Option.some.inj h
          refine hI.pushes (pushes_pace env now hC.2) fun req hreq => ?_
          rw [sessionOf, (ticks_pace env now s).cmdQueue] at hreq
          exact hreq

section

variable {clientIp mediaRoot sessionId : Bytes} {ssrc audioSsrc : UInt32} {as : List (SessionAct M)}
  {t : Handled M}

/-- In every run of commands that were parsed and of ticks, the buffers are legible responses and
    frames; they fit if the audio does. -/
theorem tidy_of_run (hid : IsDecimal sessionId)
    (h : Lts.run sessionStep (.ok (Session.new clientIp mediaRoot sessionId ssrc audioSsrc)) as =
      some t)
    (hreceived : Lts.Along sessionStep Received
      (.ok (Session.new clientIp mediaRoot sessionId ssrc audioSsrc)) as)
    (hfits : Lts.Along sessionStep (fun t a => P → AudioFitsTick t a)
      (.ok (Session.new clientIp mediaRoot sessionId ssrc audioSsrc)) as) :
    Tidy P (sessionOf t) := by
  refine Lts.run_invariant (I := fun t => Tidy P (sessionOf t))
    (fun _ _ _ hI hC h => tidy_step hI hC h) ?_ (Lts.along_and hreceived hfits) h
  refine ⟨fun hmem => ?_, List.forall_mem_nil _, List.forall_mem_nil _⟩
  exact absurd (hid.2 13 hmem) (by decide)

end

/-- **The output can be taken apart again.** In every run of a session, of commands that were
    parsed and of ticks: if no tick that streams over TCP has an audio packet at hand of more than
    65519 bytes, then a client gets back exactly the RTP packets and the responses that were
    pushed to `outbox_`, in order, and the length of every frame is the size of its packet. -/
theorem outbox_decodable (clientIp mediaRoot sessionId : Bytes) (ssrc audioSsrc : UInt32)
    (as : List (SessionAct M)) (t : Handled M) (hid : IsDecimal sessionId)
    (h : Lts.run sessionStep (.ok (Session.new clientIp mediaRoot sessionId ssrc audioSsrc)) as =
      some t)
    (hreceived : Lts.Along sessionStep Received
      (.ok (Session.new clientIp mediaRoot sessionId ssrc audioSsrc)) as)
    (hfits : Lts.Along sessionStep AudioFitsTick
      (.ok (Session.new clientIp mediaRoot sessionId ssrc audioSsrc)) as) :
    Decodable (sessionOf t).log ∧ ∀ track frame, .interleaved track frame ∈ (sessionOf t).log →
      RTPPacket.bigEndian ((frame.drop 2).take 2) = (frame.drop 4).length := by
  have htidy : Tidy True (sessionOf t) :=
    tidy_of_run hid h hreceived (Lts.along_mono (fun _ _ hC _ => hC) hfits)
  refine ⟨(decodable_iff fun e he => (htidy.log e he).1).mpr
    fun e he => (htidy.log e he).2 trivial, ?_⟩
  intro track frame hmem
  obtain ⟨⟨channel, rtp, rfl⟩, hlen⟩ := htidy.log _ hmem
  have hlen : rtp.length ≤ 0xFFFF := hlen trivial
  exact bigEndian_length rtp.length (by omega)

/-- The clip with an audio track of one packet and a second frame behind it. -/
def soundClip (data : Bytes) : MediaSource PacketList Unit :=
  { clip with
    fmtCtx := ⟨[], clip.fmtCtx.after ++
      [{ streamIndex := 1, pts := 0, dts := 0, key := false, duration := 1024, data := data },
        { streamIndex := 0, pts := 3600, dts := 3600, key := false, duration := 3600
          data := [0, 0, 0, 1, 0x41, 0x9a] }]⟩
    audioInfo := { clip.audioInfo with present := true }
    audioIdx := 1 }

def soundFile (data : Bytes) : Env (MediaSource PacketList Unit) :=
  { oneFile with
    openSource := fun p => if p = ascii "/media/a.mp4" then some (soundClip data) else none }

/-- Both tracks are set up over TCP and played. -/
def soundRequests : List Bytes :=
  [ascii "DESCRIBE rtsp://h/a.mp4 RTSP/1.0\r\nCSeq: 1\r\n\r\n",
    ascii "SETUP rtsp://h/a.mp4/trackID=0 RTSP/1.0\r\nCSeq: 2\r\nTransport: RTP/AVP/TCP;interleaved=0-1\r\n\r\n",
    ascii "SETUP rtsp://h/a.mp4/trackID=1 RTSP/1.0\r\nCSeq: 3\r\nTransport: RTP/AVP/TCP;interleaved=2-3\r\n\r\n",
    ascii "PLAY rtsp://h/a.mp4 RTSP/1.0\r\nCSeq: 4\r\n\r\n"]

/-- The requests are handled, then one tick sends the first frame and another one, 50 ms later,
    the second frame and the audio. -/
def soundRun (data : Bytes) : List (SessionAct (MediaSource PacketList Unit)) :=
  (soundRequests.filterMap RTSPRequest.parse).flatMap
    (fun req => [.command req, .handle (soundFile data)]) ++
    [.pace (soundFile data) 1, .pace (soundFile data) 50000000]

theorem isDecimal_seven : IsDecimal (ascii "7") := by decide +kernel

theorem received_soundRun (data : Bytes) (t : Handled (MediaSource PacketList Unit)) :
    Lts.Along sessionStep Received t (soundRun data) := by
  refine Lts.along_of_forall (fun a ha t => ?_) t
  rcases List.mem_append.mp ha with ha | ha
  · obtain ⟨req, hreq, ha⟩ := List.mem_flatMap.mp ha
    obtain ⟨raw, -, hraw⟩ := List.mem_filterMap.mp hreq
    rcases List.mem_cons.mp ha with rfl | ha
    · exact ⟨raw, hraw⟩
    · rw [List.mem_singleton.mp ha]
      change 13 ∉ ascii "Thu, 01 Jan 1970 00:00:00 GMT"
      decide
  · rcases List.mem_cons.mp ha with rfl | ha
    · trivial
    · rw [List.mem_singleton.mp ha]
      trivial

instance (s : Session M) : Decidable s.AudioFits :=
  inferInstanceAs (Decidable (_ → ∀ ap ∈ s.audioAtHand, _))

instance : ∀ (t : Handled M) (a : SessionAct M), Decidable (AudioFitsTick t a)
  | .ok s, .pace _ _ => inferInstanceAs (Decidable (s.Streaming → s.AudioFits))
  | .ok _, .command _ => isTrue trivial
  | .ok _, .handle _ => isTrue trivial
  | .error _, _ => isTrue trivial

/-- The tracks of the interleaved frames. -/
def frameTracks (log : List Event) : List Track :=
  log.filterMap fun e =>
    match e with
    | .interleaved track _ => some track
    | _ => none

/-- An audio packet of three bytes: the client gets back the four responses and the five packets. -/
theorem outbox_decodable_sound : ∃ t, Lts.run sessionStep (.ok client) (soundRun [1, 2, 3]) = some t ∧
    frameTracks (sessionOf t).log = [.video, .video, .video, .video, .audio] ∧
    Decodable (sessionOf t).log := by
  have hrun : (Lts.run sessionStep (.ok client) (soundRun [1, 2, 3])).map
      (fun t => decide (frameTracks (sessionOf t).log = [.video, .video, .video, .video, .audio])) =
      some true := by decide +kernel
  obtain ⟨t, ht, htracks⟩ := Option.map_eq_some_iff.mp hrun
  refine ⟨t, ht, of_decide_eq_true htracks, ?_⟩
  exact (outbox_decodable (ascii "10.0.0.2") (ascii "/media") (ascii "7") 1 2 _ t isDecimal_seven ht
    (received_soundRun [1, 2, 3] _) (by decide +kernel)).1

/-- The event is a packet that 16 bits cannot say. -/
def Event.isLong : Event → Bool
  | .interleaved _ frame => !((frame.drop 4).drop 0xFFFF).isEmpty
  | _ => false

omit [IMediaSource M] in
theorem not_fits_of_isLong {e : Event} (h : e.isLong = true) : ¬ e.Fits := by
  cases e with
  | interleaved track frame =>
      intro hfits
      have hfits : (frame.drop 4).length ≤ 0xFFFF := hfits
      rw [Event.isLong, List.drop_eq_nil_iff.mpr hfits] at h
      cases h
  | _ => cases h

/-- An audio packet of 65520 bytes: its RTP packet has 65536, the length says 0, and the client
    reads the packet as what comes next. -/
def longAudio : Bytes := List.replicate 65520 0

theorem longAudio_not_decodable : ∃ t,
    Lts.run sessionStep (.ok client) (soundRun longAudio) = some t ∧
      ¬ (Decodable (sessionOf t).log ∧ ∀ track frame,
        .interleaved track frame ∈ (sessionOf t).log →
          RTPPacket.bigEndian ((frame.drop 2).take 2) = (frame.drop 4).length) := by
  have hrun : (Lts.run sessionStep (.ok client) (soundRun longAudio)).map
      (fun t => (sessionOf t).log.any Event.isLong) = some true := by decide +kernel
  obtain ⟨t, ht, hlong⟩ := Option.map_eq_some_iff.mp hrun
  obtain ⟨e, he, hlong⟩ := List.any_eq_true.mp hlong
  have htidy : Tidy False (sessionOf t) :=
    tidy_of_run isDecimal_seven ht (received_soundRun longAudio _)
      (Lts.along_of_forall (fun _ _ _ hno => hno.elim) _)
  refine ⟨t, ht, fun h => ?_⟩
  exact not_fits_of_isLong hlong ((decodable_iff fun e he => (htidy.log e he).1).mp h.1 e he)

end RtspServer
