/-
  The audio side of the anchor. When a tick anchors the clock on the first frame after a seek, it
  takes the RTP timestamp of that frame to the audio clock: `audio_loop_offset_`. The audio packets
  from the seek on are stamped by the source, from its own audio offset. `audioIsDue` takes the
  difference of the two in `uint32_t`, so an anchor that is one sample ahead of the audio offset
  makes the first packet wait for 2^32 samples.

  `audio_anchor_iff`: the anchor is not ahead exactly as long as the landing fits
  (`MediaSource.Reposition.Fits`). `filmClip_audio_waits`: a film at 24000/1001 frames a second,
  of which frame 26 does not.
-/
import RtspServer.Media.Landing
import RtspServer.Server.PacerMoves
import RtspServer.Server.Schedule

namespace RtspServer

open ByteString Session MediaSource

/-- The difference in `audioIsDue` does not wrap for a packet at or after `offset`. -/
def NoWrap (loopOffset offset : UInt32) : Prop :=
  loopOffset ≤ offset ∧ ∀ ap : AudioPacket, offset ≤ ap.rtpTimestamp →
    ((ap.rtpTimestamp - loopOffset).toNat : Int) = ap.rtpTimestamp.toNat - loopOffset.toNat

theorem noWrap_iff (loopOffset offset : UInt32) :
    NoWrap loopOffset offset ↔ loopOffset ≤ offset := by
  refine ⟨And.left, fun h => ⟨h, fun ap hap => ?_⟩⟩
  rw [UInt32.le_iff_toNat_le] at h hap
  rw [UInt32.toNat_sub_of_le _ _ (UInt32.le_iff_toNat_le.mpr (h.trans hap))]
  omega

variable {D B : Type} [FFmpeg D B]

theorem readAudio_offset (n : Nat) (m : MediaSource D B) :
    ((fun m => (IMediaSource.readAudioPacket m).2)^[n] m).audioRtpOffset = m.audioRtpOffset := by
  induction n generalizing m with
  | zero => rfl
  | succ n ih =>
      rw [Function.iterate_succ_apply, ih]
      change m.readAudioPacket.2.audioRtpOffset = m.audioRtpOffset
      unfold MediaSource.readAudioPacket
      repeat' split
      all_goals rfl

/-- The source when the tick that anchors the clock ends, and the audio side of the anchor. -/
theorem anchored_audio {env : Env (MediaSource D B)} {now t0 : Int}
    {s : Session (MediaSource D B)} {source : MediaSource D B} {l : List Event} {vp : VideoPacket}
    (hsource : s.mediaSource = some source) (hlog : (s.pace env now).log = s.log ++ l)
    (hanchor : .anchored vp t0 ∈ l) :
    ∃ source' m', source.readPacket = (some vp, source') ∧
      (s.pace env now).mediaSource = some m' ∧ m'.audioRtpOffset = source'.audioRtpOffset ∧
      (0 < source'.audioInfo.sampleRate → (s.pace env now).audioLoopOffset =
        audioTicks vp.rtpTimestamp source'.audioInfo.sampleRate) := by
  obtain ⟨rfl, -, hff, source₀, source', t, hsource₀, hh, heq⟩ :=
    (ticks_pace env now s).of_anchored hlog hanchor
  obtain rfl := Option.some.inj (hsource₀.symm.trans hsource)
  obtain ⟨hm, -⟩ := hh.facts hsource
  obtain ⟨tail, -, -, seq, loads, close, aseq, held, n, hdeliver⟩ :=
    deliver_spec env t0 source' vp ((t.anchorAt t0 source' vp).emit (.timed vp 0))
  rw [heq, hdeliver]
  refine ⟨source', _, ?_, congrArg (Option.map _) hm, readAudio_offset n source', fun hrate => ?_⟩
  · cases hh with
    | kept _ _ _ _ hfirst =>
        rw [hff] at hfirst
        cases hfirst
    | read _ _ _ _ _ _ hread => exact hread
  · exact if_pos hrate

/-- After a seek, and a shift of the clocks, the audio packets of the new position are not late by
    2^32 samples exactly when the landing fits. -/
theorem audio_anchor_iff (m : MediaSource D B) (op : Reposition)
    (hpresent : m.audioInfo.present = true) (hrate : 0 < m.audioInfo.sampleRate)
    (hprefetch : m.prefetchVp = none) (s : Session (MediaSource D B)) (source : MediaSource D B)
    (hsource : s.mediaSource = some source) (hsought : AsSought (op.apply m) source)
    (env : Env (MediaSource D B)) (now : Int) (l : List Event) (vp : VideoPacket)
    (hlog : (s.pace env now).log = s.log ++ l) (hanchor : .anchored vp now ∈ l) :
    ∃ m', (s.pace env now).mediaSource = some m' ∧
      (NoWrap (s.pace env now).audioLoopOffset m'.audioRtpOffset ↔ op.Fits m) := by
  obtain ⟨hprefetch', hfirst, hinfo⟩ := op.clocks m
  obtain ⟨source', m', hread, hm', haudio, hloop⟩ := anchored_audio hsource hlog hanchor
  obtain ⟨hstamp, hinfo', haudio'⟩ := hsought.read (hprefetch'.trans hprefetch) hfirst hread
  have hrate' : source'.audioInfo = m.audioInfo := hinfo'.trans hinfo
  refine ⟨m', hm', ?_⟩
  rw [noWrap_iff, haudio, haudio', hloop (by rw [hrate']; exact hrate), hrate', hstamp]
  exact op.fits_iff hpresent hrate

/-! ## A film -/

/-- A film at 24000/1001 frames a second with audio at 44.1 kHz; frames 0, 10 and 26 are key
    frames. -/
def filmClip : MediaSource PacketList Unit :=
  { clip with
    fmtCtx := ⟨[],
      [demoPacket 0 0 true, demoPacket 10010 10010 true, demoPacket 26026 26026 true]⟩
    timeBase := ⟨1, 24000, Nat.one_pos, Nat.succ_pos 23999⟩
    audioInfo := { present := true, sampleRate := 44100, channels := 2, asc := [] }, audioIdx := 1 }

/-- A session that plays the film from `secs` on. -/
def filmSession (secs : Rat) : Session (MediaSource PacketList Unit) :=
  { client with
    state := .playing, transportReady := true
    mediaSource := some (filmClip.seekToSeconds secs) }

/-- Frame 10 is at 18393.375 samples and, rounded to 90 kHz, at 18393.62: its audio is due at
    once. -/
theorem audio_anchor_iff_film :
    .anchored (demoFrame (demoPacket 10010 10010 true) 37538) 1 ∈
        ((filmSession (1 / 2)).pace oneFile 1).log ∧
      ∃ m', ((filmSession (1 / 2)).pace oneFile 1).mediaSource = some m' ∧
        NoWrap ((filmSession (1 / 2)).pace oneFile 1).audioLoopOffset m'.audioRtpOffset := by
  have hanchor : .anchored (demoFrame (demoPacket 10010 10010 true) 37538) 1 ∈
      ((filmSession (1 / 2)).pace oneFile 1).log := by decide +kernel
  obtain ⟨m', hm', h⟩ := audio_anchor_iff filmClip (.seekToSeconds (1 / 2)) rfl (by decide) rfl
    (filmSession (1 / 2)) _ rfl (.inl rfl) oneFile 1 _ _ (List.nil_append _).symm hanchor
  refine ⟨hanchor, m', hm', h.mpr ?_⟩
  change filmClip.Fits (1 / 2) 0
  have hlanding : filmClip.landing (1 / 2) = some 10010 := by decide +kernel
  simp only [Fits, hlanding]
  decide +kernel

/-- Frame 26 is at 47822.775 samples and, rounded to 90 kHz, at 47823.02. -/
theorem filmClip_audio_waits :
    .anchored (demoFrame (demoPacket 26026 26026 true) 97598) 1 ∈
      ((filmSession (11 / 10)).pace oneFile 1).log ∧
    ((filmSession (11 / 10)).pace oneFile 1).mediaSource.map (·.audioRtpOffset) = some 47822 ∧
    ¬ NoWrap ((filmSession (11 / 10)).pace oneFile 1).audioLoopOffset 47822 := by
  refine ⟨by decide +kernel, by decide +kernel, ?_⟩
  rw [noWrap_iff]
  decide +kernel

end RtspServer
