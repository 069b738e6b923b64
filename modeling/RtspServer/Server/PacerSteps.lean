/-
  What the steps of `pacerTick` can do, one lemma for each step: the state afterwards as an
  update of the state before, and what is added to the log. The results about runs use these
  lemmas and do not unfold the steps.

  * `pace_cases`, `fetchFrame_cases`, `pacePending_cases`, `anchor_cases`: the branches of a tick
    after its commands.
  * `sendFrame_spec`: the packets of a video frame. `paceAudio_spec`: the audio packets.
-/
import RtspServer.Server.PacerTick

namespace RtspServer

open ByteString Session H264Packetizer IMediaSource

variable {M : Type}

/-! ## Video packets -/

/-- The payloads of one NAL unit with their marker bits. -/
def markNal (lastNal : Bool) : List H264Packetizer.Packet → List (Bytes × Bool)
  | [] => []
  | p :: rest => (p.payload, lastNal && rest.isEmpty) :: markNal lastNal rest

/-- The payloads of the NAL units of a frame with their marker bits. -/
def framePayloads : List Bytes → List (Bytes × Bool)
  | [] => []
  | nal :: rest => markNal rest.isEmpty (packetize nal kMtu) ++ framePayloads rest

/-- The packets of these payloads, numbered from `seq` on. -/
def rtpPackets (ts ssrc : UInt32) (seq : UInt16) (ps : List (Bytes × Bool)) : List Bytes :=
  ps.mapIdx fun i p =>
    RTPPacket.build p.1 (toByte payloadType) (seq + UInt16.ofNat i) ts ssrc p.2

theorem seq_succ (seq : UInt16) (n : Nat) :
    seq + 1 + UInt16.ofNat n = seq + UInt16.ofNat (n + 1) := by
  rw [UInt16.ofNat_add, UInt16.add_assoc, UInt16.add_comm 1]
  rfl

theorem rtpPackets_cons (ts ssrc : UInt32) (seq : UInt16) (p : Bytes × Bool)
    (rest : List (Bytes × Bool)) :
    rtpPackets ts ssrc seq (p :: rest) =
      RTPPacket.build p.1 (toByte payloadType) seq ts ssrc p.2 ::
        rtpPackets ts ssrc (seq + 1) rest := by
  unfold rtpPackets
  rw [List.mapIdx_cons]
  simp only [seq_succ]
  rw [show UInt16.ofNat 0 = 0 from rfl, UInt16.add_zero]

/-- The video packet that an event is about. -/
def Event.videoPacket : Event → Option Bytes
  | .interleaved .video frame => some (frame.drop 4)
  | .datagram .video _ rtp | .dropped .video rtp => some rtp
  | _ => none

/-- The video packets a session has built. -/
def videoPackets (log : List Event) : List Bytes := log.filterMap Event.videoPacket

/-- The payloads in turn. -/
def sendPayloads (env : Env M) (ts : UInt32) (ps : List (Bytes × Bool)) (s : Session M) :
    Session M :=
  ps.foldl (fun s p => s.sendVideoRTP env p.1 ts p.2) s

theorem sendNal_eq (env : Env M) (ts : UInt32) (lastNal : Bool)
    (ps : List H264Packetizer.Packet) (s : Session M) :
    sendNal env ts lastNal ps s = sendPayloads env ts (markNal lastNal ps) s := by
  induction ps generalizing s with
  | nil => rfl
  | cons p rest ih => exact ih _

/-- The two loops of step 8 are one over the payloads of the frame. -/
theorem sendNals_eq (env : Env M) (ts : UInt32) (nals : List Bytes) (s : Session M) :
    s.sendNals env ts nals = sendPayloads env ts (framePayloads nals) s := by
  induction nals generalizing s with
  | nil => rfl
  | cons nal rest ih =>
      rw [sendNals, ih, sendNal_eq, framePayloads]
      unfold sendPayloads
      rw [List.foldl_append]

/-- One packet, wherever it goes. -/
theorem sendVideoRTP_spec (env : Env M) (payload : Bytes) (ts : UInt32) (marker : Bool)
    (s : Session M) :
    ∃ loads close e, s.sendVideoRTP env payload ts marker =
        { s with rtpSeq := s.rtpSeq + 1, loads := loads, closeAfterWrite := close
                 log := s.log ++ [e] } ∧
      e.videoPacket =
        some (RTPPacket.build payload (toByte payloadType) s.rtpSeq ts s.ssrc marker) := by
  unfold sendVideoRTP pushTCPFrame sendDatagram
  dsimp only
  repeat' split
  all_goals exact ⟨_, _, _, rfl, rfl⟩

/-- The packets of a frame, wherever they go. -/
theorem sendPayloads_spec (env : Env M) (ts : UInt32) (ps : List (Bytes × Bool))
    (s : Session M) :
    ∃ loads close tail, sendPayloads env ts ps s =
        { s with rtpSeq := s.rtpSeq + UInt16.ofNat ps.length, loads := loads
                 closeAfterWrite := close, log := s.log ++ tail } ∧
      tail.map Event.videoPacket = (rtpPackets ts s.ssrc s.rtpSeq ps).map some := by
  induction ps generalizing s with
  | nil => exact ⟨s.loads, s.closeAfterWrite, [], by simp [sendPayloads], rfl⟩
  | cons p rest ih =>
      obtain ⟨loads, close, e, hsend, he⟩ := sendVideoRTP_spec env p.1 ts p.2 s
      obtain ⟨loads', close', tail, hrest, htail⟩ := ih (s.sendVideoRTP env p.1 ts p.2)
      refine ⟨loads', close', e :: tail, ?_, ?_⟩
      · change sendPayloads env ts rest (s.sendVideoRTP env p.1 ts p.2) = _
        rw [hrest, hsend]
        simp only [seq_succ, List.length_cons, List.append_assoc, List.singleton_append]
      · rw [hsend] at htail
        rw [rtpPackets_cons, List.map_cons, List.map_cons, he, htail]

/-! ## Audio packets -/

/-- The track of the packet that an event is about. -/
def Event.packetTrack : Event → Option Track
  | .interleaved track _ | .datagram track _ _ | .dropped track _ => some track
  | _ => none

/-- One audio packet, wherever it goes. -/
theorem sendOneAudio_spec (env : Env M) (ap : AudioPacket) (s : Session M) :
    ∃ seq loads close tail, s.sendOneAudio env ap =
        { s with audioRtpSeq := seq, loads := loads, closeAfterWrite := close
                 log := s.log ++ tail } ∧
      ∀ e ∈ tail, e.packetTrack = some .audio := by
  have hone : ∀ e : Event, e.packetTrack = some .audio → ∀ e' ∈ [e], e'.packetTrack = some .audio := by
    intro e he e' he'
    rw [List.mem_singleton.mp he']
    exact he
  unfold sendOneAudio sendAudioRTP pushTCPFrame sendDatagram
  dsimp only
  split
  · exact ⟨_, _, _, [], by rw [List.append_nil], fun _ he => nomatch he⟩
  · repeat' split
    all_goals exact ⟨_, _, _, _, rfl, hone _ rfl⟩

/-- What the audio part of a tick does to a session: packets of the audio track, the held audio
    packet, and some reads of the audio queue. -/
def PacesAudio [IMediaSource M] (s s' : Session M) : Prop :=
  ∃ seq loads close tail held n,
    s' = { s with audioRtpSeq := seq, loads := loads, closeAfterWrite := close
                  log := s.log ++ tail, pendingAp := held
                  mediaSource := s.mediaSource.map ((fun m => (readAudioPacket m).2)^[n]) } ∧
      ∀ e ∈ tail, e.packetTrack = some .audio

variable [IMediaSource M]

theorem PacesAudio.refl (s : Session M) : PacesAudio s s :=
  ⟨s.audioRtpSeq, s.loads, s.closeAfterWrite, [], s.pendingAp, 0, by simp, fun _ he => nomatch he⟩

theorem PacesAudio.trans {s t u : Session M} (h : PacesAudio s t) (h' : PacesAudio t u) :
    PacesAudio s u := by
  obtain ⟨seq, loads, close, tail, held, n, rfl, htail⟩ := h
  obtain ⟨seq', loads', close', tail', held', n', rfl, htail'⟩ := h'
  refine ⟨seq', loads', close', tail ++ tail', held', n' + n, ?_, ?_⟩
  · simp only [List.append_assoc, Option.map_map, Function.iterate_add]
  · intro e he
    rcases List.mem_append.mp he with he | he
    · exact htail e he
    · exact htail' e he

theorem pacesAudio_sendOneAudio (env : Env M) (ap : AudioPacket) (s : Session M) :
    PacesAudio s (s.sendOneAudio env ap) := by
  obtain ⟨seq, loads, close, tail, heq, htail⟩ := sendOneAudio_spec env ap s
  exact ⟨seq, loads, close, tail, s.pendingAp, 0, by rw [heq]; simp, htail⟩

theorem pacesAudio_hold (held : Option AudioPacket) (s : Session M) :
    PacesAudio s { s with pendingAp := held } :=
  ⟨s.audioRtpSeq, s.loads, s.closeAfterWrite, [], held, 0, by simp, fun _ he => nomatch he⟩

theorem pacesAudio_read {source : M} {s : Session M} (h : s.mediaSource = some source) :
    PacesAudio s { s with mediaSource := some (readAudioPacket source).2 } :=
  ⟨s.audioRtpSeq, s.loads, s.closeAfterWrite, [], s.pendingAp, 1, by simp [h],
    fun _ he => nomatch he⟩

theorem pacesAudio_sendQueuedAudio (env : Env M) (now rate : Int) (fuel : Nat) (s : Session M) :
    PacesAudio s (s.sendQueuedAudio env now rate fuel) := by
  induction fuel generalizing s with
  | zero => exact .refl s
  | succ fuel ih =>
      rw [sendQueuedAudio]
      split
      · exact .refl s
      · next source hs =>
          have hread := pacesAudio_read hs
          split
          · next source' hres =>
              rw [hres] at hread
              exact hread
          · next ap source' hres =>
              rw [hres] at hread
              dsimp only
              split
              · exact hread.trans ((pacesAudio_sendOneAudio env ap _).trans (ih _))
              · exact hread.trans (pacesAudio_hold (some ap) _)

/-- Step 9. -/
theorem paceAudio_spec (env : Env M) (now : Int) (source : M) (s : Session M) :
    PacesAudio s (s.paceAudio env now source) := by
  have hheld : ∀ rate, PacesAudio s (s.sendHeldAudio env now rate) := by
    intro rate
    unfold sendHeldAudio
    repeat' split
    · exact .refl s
    · exact (pacesAudio_sendOneAudio env _ s).trans (pacesAudio_hold none _)
    · exact .refl s
  unfold paceAudio
  dsimp only
  repeat' split
  · exact (hheld _).trans (pacesAudio_sendQueuedAudio env now _ _ _)
  · exact hheld _
  · exact .refl s

/-- Step 8. -/
theorem sendFrame_spec (env : Env M) (source : M) (vp : VideoPacket) (s : Session M) :
    ∃ loads close tail, s.sendFrame env source vp =
        { s with
          rtpSeq := s.rtpSeq +
            UInt16.ofNat (framePayloads (nalList (streamInfo source) vp)).length
          loads := loads, closeAfterWrite := close, log := s.log ++ .sending vp :: tail } ∧
      tail.map Event.videoPacket = (rtpPackets vp.rtpTimestamp s.ssrc s.rtpSeq
        (framePayloads (nalList (streamInfo source) vp))).map some := by
  obtain ⟨loads, close, tail, heq, htail⟩ := sendPayloads_spec env vp.rtpTimestamp
    (framePayloads (nalList (streamInfo source) vp)) (s.emit (.sending vp))
  refine ⟨loads, close, tail, ?_, htail⟩
  rw [sendFrame, sendNals_eq, heq]
  simp [Session.emit]

/-! ## The branches of a tick -/

/-- The clock of the session and the gate on the next key frame are set anew, nothing else. -/
def Tunes (s t : Session M) : Prop :=
  ∃ wall pause gate, t = { s with wallStart := wall, pauseStart := pause
                                  resumeWaitingForIdr := gate }

/-- What steps 3 to 5 come to. -/
inductive Fetches (source : M) (s : Session M) : Session M → Prop where
  /-- the gate on the next key frame is closed -/
  | gated {t : Session M} (ht : Tunes s t) : Fetches source s { t with pendingVp := none }
  /-- a frame is held already -/
  | held {t : Session M} {vp : VideoPacket} (ht : Tunes s t) (hvp : s.pendingVp = some vp)
      (hfirst : s.firstFrame = false) : Fetches source s t
  /-- the source is at its end and starts again -/
  | ended {t : Session M} {source' : M} (ht : Tunes s t) (hread : readPacket source = (none, source')) :
      Fetches source s ({ t with pendingVp := none }.loopSource source')
  /-- a frame is read, and held or passed over -/
  | read {t : Session M} {vp : VideoPacket} {source' : M} {state : State}
      {pending : Option VideoPacket} (ht : Tunes s t) (hread : readPacket source = (some vp, source'))
      (hstate : state = s.state ∨ state = .paused) (hpending : pending = none ∨ pending = some vp) :
      Fetches source s { t with mediaSource := some source', state := state, pendingVp := pending }

omit [IMediaSource M] in
theorem Tunes.trans {s t u : Session M} (h : Tunes s t) (h' : Tunes t u) : Tunes s u := by
  obtain ⟨w, p, g, rfl⟩ := h
  obtain ⟨w', p', g', rfl⟩ := h'
  exact ⟨w', p', g', rfl⟩

omit [IMediaSource M] in
theorem resumeClock_spec (now : Int) (s : Session M) : Tunes s (s.resumeClock now) := by
  unfold resumeClock
  split <;> exact ⟨_, _, _, rfl⟩

omit [IMediaSource M] in
/-- Step 5 on a frame that was read. -/
theorem acceptFrame_spec (vp : VideoPacket) {s : Session M} (h : s.pendingVp = none) :
    ∃ gate state pending, (state = s.state ∨ state = .paused) ∧
      (pending = none ∨ pending = some vp) ∧ s.acceptFrame vp =
        { s with resumeWaitingForIdr := gate, state := state, pendingVp := pending } := by
  unfold acceptFrame
  dsimp only
  repeat' split
  · exact ⟨_, _, s.pendingVp, .inl rfl, .inl h, rfl⟩
  · exact ⟨_, _, s.pendingVp, .inl rfl, .inl h, rfl⟩
  · exact ⟨_, _, s.pendingVp, .inr rfl, .inl h, rfl⟩
  · exact ⟨_, _, _, .inl rfl, .inr rfl, rfl⟩

theorem fetches_nextFrame {source : M} {s t : Session M} (ht : Tunes s t) :
    Fetches source s ({ t with pendingVp := none }.nextFrame source) := by
  unfold nextFrame
  dsimp only
  split
  · next source' hread => exact .ended ht hread
  · next vp source' hread =>
      obtain ⟨gate, state, pending, hstate, hpending, heq⟩ :=
        acceptFrame_spec vp (s := { t with mediaSource := some source', pendingVp := none }) rfl
      rw [heq]
      obtain ⟨w, p, g, rfl⟩ := ht
      exact .read (t := { s with wallStart := w, pauseStart := p, resumeWaitingForIdr := gate })
        ⟨w, p, gate, rfl⟩ hread hstate hpending

omit [IMediaSource M] in
theorem idrGate_none {s : Session M} (h : s.pendingVp = none) : s.idrGate = (true, s) := by
  unfold idrGate
  rw [h]
  split <;> rfl

omit [IMediaSource M] in
/-- Step 4b on a held frame. -/
theorem idrGate_some {s : Session M} {vp : VideoPacket} (h : s.pendingVp = some vp) :
    s.idrGate = (false, { s with pendingVp := none }) ∨
      ∃ t, Tunes s t ∧ s.idrGate = (true, t) := by
  unfold idrGate
  split
  · split
    · next hnone =>
        rw [h] at hnone
        cases hnone
    · split
      · exact .inr ⟨_, ⟨_, _, _, rfl⟩, rfl⟩
      · exact .inl rfl
  · exact .inr ⟨_, ⟨_, _, _, rfl⟩, rfl⟩

/-- Steps 3 to 5. -/
theorem fetchFrame_cases (now : Int) (source : M) (s : Session M) :
    Fetches source s (s.fetchFrame now source) := by
  have hclock := resumeClock_spec now s
  unfold fetchFrame
  generalize s.resumeClock now = t at hclock
  have hpending : t.pendingVp = s.pendingVp := by
    obtain ⟨w, p, g, rfl⟩ := hclock
    rfl
  have hfirst : t.firstFrame = s.firstFrame := by
    obtain ⟨w, p, g, rfl⟩ := hclock
    rfl
  by_cases hff : t.firstFrame = true
  · -- a held frame is dropped, so one is read
    rw [dropStale, if_pos hff, idrGate_none rfl]
    exact fetches_nextFrame hclock
  · rw [dropStale, if_neg hff]
    cases hvp : t.pendingVp with
    | none =>
        rw [idrGate_none hvp]
        dsimp only
        have hsame : t = { t with pendingVp := none } := by rw [← hvp]
        rw [hsame]
        exact fetches_nextFrame hclock
    | some vp =>
        rcases idrGate_some hvp with hgate | ⟨t', ht', hgate⟩
        · rw [hgate]
          exact .gated hclock
        · rw [hgate]
          dsimp only
          have hheld : t'.nextFrame source = t' := by
            obtain ⟨w, p, g, rfl⟩ := ht'
            unfold nextFrame
            rw [hvp]
          rw [hheld]
          exact .held (hclock.trans ht') (hpending ▸ hvp)
            (by rw [← hfirst]; exact Bool.of_not_eq_true hff)

/-- The tick that does not stream, or steps 3 to 9. -/
theorem pace_cases (env : Env M) (now : Int) (s : Session M) :
    (∃ pause pending, (pending = none ∨ pending = s.pendingVp) ∧
      s.pace env now = { s with pauseStart := pause, pendingVp := pending }) ∨
    ∃ source t, s.mediaSource = some source ∧ s.state = .playing ∧ s.transportReady = true ∧
      Fetches source s t ∧ s.pace env now = t.pacePending env now := by
  have hidle : ∃ pause pending, (pending = none ∨ pending = s.pendingVp) ∧
      s.notStreaming now = { s with pauseStart := pause, pendingVp := pending } := by
    unfold notStreaming
    dsimp only
    repeat' split
    · exact ⟨_, none, .inl rfl, rfl⟩
    · exact ⟨now, s.pendingVp, .inr rfl, rfl⟩
    · exact ⟨_, none, .inl rfl, rfl⟩
    · exact ⟨s.pauseStart, s.pendingVp, .inr rfl, rfl⟩
  unfold pace
  split
  · exact .inl hidle
  · next source hs =>
      split
      · exact .inl hidle
      · next hguard =>
          obtain ⟨hstate, hready⟩ := not_or.mp hguard
          exact .inr ⟨source, _, hs, not_not.mp hstate, Bool.of_not_eq_false hready,
            fetchFrame_cases now source s, rfl⟩

/-- Step 6. -/
theorem anchor_cases (now : Int) (source : M) (vp : VideoPacket) (s : Session M) :
    (s.firstFrame = true ∧ ∃ gate audio, s.anchor now source vp =
      { s with resumeWaitingForIdr := gate, wallStart := now, loopVideoOffset := vp.rtpTimestamp
               audioLoopOffset := audio, firstFrame := false
               log := s.log ++ [.anchored vp now] }) ∨
    (s.firstFrame = false ∧ ∃ gate, s.anchor now source vp =
      { s with resumeWaitingForIdr := gate }) := by
  unfold anchor
  dsimp only
  split <;> split
  · next _ hff => exact .inl ⟨hff, _, _, rfl⟩
  · next _ hff => exact .inr ⟨Bool.of_not_eq_true hff, _, rfl⟩
  · next _ hff => exact .inl ⟨hff, _, _, rfl⟩
  · next _ hff => exact .inr ⟨Bool.of_not_eq_true hff, _, rfl⟩

/-- Steps 6 to 9: no frame is held, or it is timed and then waits or is sent. -/
theorem pacePending_cases (env : Env M) (now : Int) (s : Session M) :
    s.pacePending env now = s ∨
    ∃ source vp t, s.mediaSource = some source ∧ s.pendingVp = some vp ∧
      t = (s.anchor now source vp).emit
        (.timed vp ((s.anchor now source vp).mediaTicks vp)) ∧
      (s.pacePending env now = t ∨ s.pacePending env now =
        ((t.sendFrame env source vp).trackFrame source vp).paceAudio env now source) := by
  unfold pacePending
  split
  · next source vp hsource hvp =>
      refine .inr ⟨source, vp, _, hsource, hvp, rfl, ?_⟩
      unfold playFrame
      dsimp only
      split
      · exact .inl rfl
      · exact .inr rfl
  · exact .inl rfl

end RtspServer
