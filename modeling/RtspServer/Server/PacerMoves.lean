/-
  The pacing part of a tick as a whole: `Ticks` lists all that it can do, with the guard of each
  branch. `PacerSteps` says for each step what it leaves alone; the results about which frames
  are sent, and when, need the guards too and use `ticks_pace`.

  A tick streams or not. One that streams passes without a frame (`Passes`: the gate, the end of
  the source, a frame that is passed over, the end of the range), or it holds one (`Holds`), which
  then waits or is sent. A frame that anchors the clock is due at once, so it never waits.
-/
import RtspServer.Server.PacerSteps

namespace RtspServer

open ByteString Session IMediaSource

variable {M : Type} [IMediaSource M]

/-- A tick goes on to its pacing. -/
def Session.Streaming (s : Session M) : Prop :=
  s.state = .playing ∧ s.mediaSource.isSome = true ∧ s.transportReady = true

instance (s : Session M) : Decidable s.Streaming := inferInstanceAs (Decidable (_ ∧ _))

/-- Steps 3 to 5 of a tick that ends without a frame. `wall` and `pause` are the clock after
    step 3. -/
inductive Passes (now : Int) (source : M) (s : Session M) : Session M → Prop where
  /-- step 4b: a held frame is no key frame while the gate is closed -/
  | gated (wall pause : Int) (vp : VideoPacket)
      (hclock : s.resumeClock now = { s with wallStart := wall, pauseStart := pause })
      (hfirst : s.firstFrame = false) (hgate : s.resumeWaitingForIdr = true)
      (hheld : s.pendingVp = some vp) (hkey : vp.isKeyFrame = false) :
      Passes now source s { s with wallStart := wall, pauseStart := pause, pendingVp := none }
  /-- the source is at its end and starts again -/
  | ended (wall pause : Int) (source' : M)
      (hclock : s.resumeClock now = { s with wallStart := wall, pauseStart := pause })
      (hnone : s.firstFrame = true ∨ s.pendingVp = none)
      (hread : readPacket source = (none, source')) :
      Passes now source s ({ s with
        wallStart := wall, pauseStart := pause, pendingVp := none }.loopSource source')
  /-- a frame without NAL units, or not a key frame while one of the gates is closed -/
  | skipped (wall pause : Int) (vp : VideoPacket) (source' : M)
      (hclock : s.resumeClock now = { s with wallStart := wall, pauseStart := pause })
      (hnone : s.firstFrame = true ∨ s.pendingVp = none)
      (hread : readPacket source = (some vp, source'))
      (hskip : vp.nals = [] ∨
        (s.firstFrame = true ∨ s.resumeWaitingForIdr = true) ∧ vp.isKeyFrame = false) :
      Passes now source s { s with
        wallStart := wall, pauseStart := pause, pendingVp := none, mediaSource := some source' }
  /-- the frame is at or behind the end of the range -/
  | stopped (wall pause : Int) (vp : VideoPacket) (source' : M)
      (hclock : s.resumeClock now = { s with wallStart := wall, pauseStart := pause })
      (hnone : s.firstFrame = true ∨ s.pendingVp = none)
      (hread : readPacket source = (some vp, source')) (hnals : vp.nals ≠ [])
      (hgate : s.firstFrame = true ∨ s.resumeWaitingForIdr = true → vp.isKeyFrame = true)
      (hend : s.reachedEnd vp = true) :
      Passes now source s { s with
        wallStart := wall, pauseStart := pause, pendingVp := none, mediaSource := some source'
        resumeWaitingForIdr := false, state := .paused }

/-- Steps 3 to 5 of a tick that holds a frame afterwards; `source'` is the source then. -/
inductive Holds (now : Int) (source : M) (s : Session M) : VideoPacket → M → Session M → Prop where
  /-- it was held before -/
  | kept (wall pause : Int) (vp : VideoPacket)
      (hclock : s.resumeClock now = { s with wallStart := wall, pauseStart := pause })
      (hfirst : s.firstFrame = false) (hheld : s.pendingVp = some vp)
      (hgate : s.resumeWaitingForIdr = true → vp.isKeyFrame = true) :
      Holds now source s vp source { s with
        wallStart := wall, pauseStart := pause, resumeWaitingForIdr := false }
  /-- it is read -/
  | read (wall pause : Int) (vp : VideoPacket) (source' : M)
      (hclock : s.resumeClock now = { s with wallStart := wall, pauseStart := pause })
      (hnone : s.firstFrame = true ∨ s.pendingVp = none)
      (hread : readPacket source = (some vp, source')) (hnals : vp.nals ≠ [])
      (hgate : s.firstFrame = true ∨ s.resumeWaitingForIdr = true → vp.isKeyFrame = true)
      (hend : s.reachedEnd vp = false) :
      Holds now source s vp source' { s with
        wallStart := wall, pauseStart := pause, mediaSource := some source'
        resumeWaitingForIdr := false, pendingVp := some vp }

/-- Step 6 on the first frame after a seek. -/
def Session.anchorAt (now : Int) (source : M) (vp : VideoPacket) (s : Session M) : Session M :=
  { s with
    wallStart := now, loopVideoOffset := vp.rtpTimestamp
    audioLoopOffset :=
      if 0 < (audioInfo source).sampleRate then
        rescaleToRate vp.rtpTimestamp (audioInfo source).sampleRate
      else s.audioLoopOffset
    firstFrame := false }.emit (.anchored vp now)

/-- Steps 8 and 9. -/
def Session.deliver (env : Env M) (now : Int) (source : M) (vp : VideoPacket) (s : Session M) :
    Session M :=
  ((s.sendFrame env source vp).trackFrame source vp).paceAudio env now source

/-- All that the pacing part of a tick can do. -/
inductive Ticks (env : Env M) (now : Int) (s : Session M) : Session M → Prop where
  | idle (h : ¬ s.Streaming) : Ticks env now s (s.notStreaming now)
  | passes {source : M} {t : Session M} (hs : s.Streaming) (hsource : s.mediaSource = some source)
      (h : Passes now source s t) : Ticks env now s t
  /-- the frame is not due -/
  | waits {source source' : M} {vp : VideoPacket} {t : Session M} (hs : s.Streaming)
      (hsource : s.mediaSource = some source) (h : Holds now source s vp source' t)
      (hfirst : s.firstFrame = false) (hdue : now < t.sendTime vp) :
      Ticks env now s (t.emit (.timed vp (t.mediaTicks vp)))
  /-- the first frame after a seek anchors the clock and is sent -/
  | starts {source source' : M} {vp : VideoPacket} {t : Session M} (hs : s.Streaming)
      (hsource : s.mediaSource = some source) (h : Holds now source s vp source' t)
      (hfirst : s.firstFrame = true) :
      Ticks env now s (((t.anchorAt now source' vp).emit (.timed vp 0)).deliver env now source' vp)
  /-- a later frame is sent -/
  | sends {source source' : M} {vp : VideoPacket} {t : Session M} (hs : s.Streaming)
      (hsource : s.mediaSource = some source) (h : Holds now source s vp source' t)
      (hfirst : s.firstFrame = false) (hdue : t.sendTime vp ≤ now) :
      Ticks env now s ((t.emit (.timed vp (t.mediaTicks vp))).deliver env now source' vp)

/-! ## Steps 2 to 5 -/

omit [IMediaSource M] in
/-- Step 2: a held frame is dropped unless the session is paused. -/
theorem notStreaming_eq (now : Int) (s : Session M) :
    ∃ pause, s.notStreaming now =
      { s with pauseStart := pause, pendingVp := if s.state = .paused then s.pendingVp else none } := by
  by_cases hpaused : s.state = .paused
  · by_cases hpause : s.pauseStart = 0
    · exact ⟨now, by simp [notStreaming, hpaused, hpause]⟩
    · refine ⟨s.pauseStart, ?_⟩
      rw [if_pos hpaused]
      simp only [notStreaming, hpause, and_false, if_false, hpaused, ne_eq, not_true_eq_false]
      rw [← hpaused]
  · exact ⟨s.pauseStart, by simp [notStreaming, hpaused]⟩

omit [IMediaSource M] in
theorem resumeClock_eq (now : Int) (s : Session M) :
    ∃ wall pause, s.resumeClock now = { s with wallStart := wall, pauseStart := pause } := by
  unfold resumeClock
  split
  · exact ⟨_, _, rfl⟩
  · exact ⟨s.wallStart, s.pauseStart, rfl⟩

theorem Holds.facts {now : Int} {source source' : M} {vp : VideoPacket} {s t : Session M}
    (h : Holds now source s vp source' t) (hsource : s.mediaSource = some source) :
    t.mediaSource = some source' ∧ t.pendingVp = some vp ∧ t.resumeWaitingForIdr = false ∧
      t.firstFrame = s.firstFrame := by
  cases h with
  | kept _ _ _ _ _ hheld => exact ⟨hsource, hheld, rfl, rfl⟩
  | read => exact ⟨rfl, rfl, rfl, rfl⟩

theorem Passes.pendingVp {now : Int} {source : M} {s t : Session M} (h : Passes now source s t) :
    t.pendingVp = none := by
  cases h <;> rfl

/-- Step 5 when no frame is held. -/
theorem nextFrame_passes_or_holds {now : Int} {source : M} {s : Session M} {wall pause : Int}
    (hclock : s.resumeClock now = { s with wallStart := wall, pauseStart := pause })
    (hnone : s.firstFrame = true ∨ s.pendingVp = none) :
    let t := { s with wallStart := wall, pauseStart := pause, pendingVp := none }
    Passes now source s (t.nextFrame source) ∨
      ∃ vp source', Holds now source s vp source' (t.nextFrame source) := by
  unfold nextFrame acceptFrame
  dsimp only
  split
  · next source' hread => exact .inl (.ended wall pause source' hclock hnone hread)
  · next vp source' hread =>
      split
      · next hnals => exact .inl (.skipped wall pause vp source' hclock hnone hread (.inl hnals))
      · next hnals =>
          split
          · next hgate =>
              simp only [Bool.and_eq_true, Bool.or_eq_true, Bool.not_eq_true'] at hgate
              exact .inl (.skipped wall pause vp source' hclock hnone hread (.inr hgate))
          · next hgate =>
              have hkey : s.firstFrame = true ∨ s.resumeWaitingForIdr = true →
                  vp.isKeyFrame = true := by
                intro h
                by_contra hno
                exact hgate (by simpa using ⟨h, Bool.of_not_eq_true hno⟩)
              split
              · next hend =>
                  exact .inl (.stopped wall pause vp source' hclock hnone hread hnals hkey hend)
              · next hend =>
                  exact .inr ⟨vp, source', .read wall pause vp source' hclock hnone hread hnals hkey
                    (Bool.of_not_eq_true hend)⟩

omit [IMediaSource M] in
/-- Step 4b on a held frame: the tick ends, or it goes on with the gate open. -/
theorem idrGate_held {s : Session M} {vp : VideoPacket} (h : s.pendingVp = some vp) :
    (s.resumeWaitingForIdr = true ∧ vp.isKeyFrame = false ∧
      s.idrGate = (false, { s with pendingVp := none })) ∨
    ((s.resumeWaitingForIdr = true → vp.isKeyFrame = true) ∧
      s.idrGate = (true, { s with resumeWaitingForIdr := false })) := by
  unfold idrGate
  by_cases hgate : s.resumeWaitingForIdr = true
  · rw [if_pos hgate, h]
    dsimp only
    by_cases hkey : vp.isKeyFrame = true
    · rw [if_pos hkey]
      exact .inr ⟨fun _ => hkey, by rw [← h]⟩
    · rw [if_neg hkey]
      exact .inl ⟨hgate, Bool.of_not_eq_true hkey, rfl⟩
  · rw [if_neg hgate]
    have hopen : s = { s with resumeWaitingForIdr := false } := by
      rw [← Bool.of_not_eq_true hgate]
    exact .inr ⟨fun hw => absurd hw hgate, congrArg _ hopen⟩

omit [IMediaSource M] in
/-- Step 4 drops a held frame exactly when the clock has to be anchored. -/
theorem dropStale_eq (s : Session M) :
    (s.firstFrame = true ∨ s.pendingVp = none) ∧ s.dropStale = { s with pendingVp := none } ∨
      s.firstFrame = false ∧ (∃ vp, s.pendingVp = some vp) ∧ s.dropStale = s := by
  unfold dropStale
  by_cases hff : s.firstFrame = true
  · rw [if_pos hff]
    exact .inl ⟨.inl hff, rfl⟩
  · rw [if_neg hff]
    by_cases hvp : s.pendingVp = none
    · exact .inl ⟨.inr hvp, by rw [← hvp]⟩
    · exact .inr ⟨Bool.of_not_eq_true hff, Option.ne_none_iff_exists'.mp hvp, rfl⟩

/-- Steps 3 to 5. -/
theorem fetchFrame_passes_or_holds (now : Int) (source : M) (s : Session M) :
    Passes now source s (s.fetchFrame now source) ∨
      ∃ vp source', Holds now source s vp source' (s.fetchFrame now source) := by
  obtain ⟨wall, pause, hclock⟩ := resumeClock_eq now s
  unfold fetchFrame
  rw [hclock]
  rcases dropStale_eq { s with wallStart := wall, pauseStart := pause } with
    ⟨hnone, heq⟩ | ⟨hff, ⟨vp, hvp⟩, heq⟩
  · rw [heq, idrGate_none (s := { s with
      wallStart := wall, pauseStart := pause, pendingVp := none }) rfl]
    exact nextFrame_passes_or_holds hclock hnone
  · rw [heq]
    rcases idrGate_held hvp with ⟨hgate, hkey, heq⟩ | ⟨hgate, heq⟩
    · rw [heq]
      exact .inl (.gated wall pause vp hclock hff hgate hvp hkey)
    · have hkept : nextFrame source { s with
          wallStart := wall, pauseStart := pause, resumeWaitingForIdr := false } = { s with
          wallStart := wall, pauseStart := pause, resumeWaitingForIdr := false } := by
        have hvp : s.pendingVp = some vp := hvp
        simp only [nextFrame, hvp]
      rw [heq]
      dsimp only
      rw [hkept]
      exact .inr ⟨vp, source, .kept wall pause vp hclock hff hvp hgate⟩

/-! ## Steps 6 to 9 -/

/-- Step 6 with the gate open. -/
theorem anchor_eq (now : Int) (source : M) (vp : VideoPacket) {s : Session M}
    (hgate : s.resumeWaitingForIdr = false) :
    s.anchor now source vp = if s.firstFrame then s.anchorAt now source vp else s := by
  unfold anchor anchorAt
  simp only [hgate, Bool.false_and, Bool.false_eq_true, if_false]

theorem mediaTicks_anchorAt (now : Int) (source : M) (vp : VideoPacket) (s : Session M) :
    (s.anchorAt now source vp).mediaTicks vp = 0 := by
  change (vp.rtpTimestamp - vp.rtpTimestamp).toNat = 0
  rw [UInt32.sub_self]
  rfl

/-- The frame that anchors the clock is due at once. -/
theorem sendTime_anchorAt (now : Int) (source : M) (vp : VideoPacket) (s : Session M) (e : Event) :
    ((s.anchorAt now source vp).emit e).sendTime vp = now := by
  change now + durationCast ((vp.rtpTimestamp - vp.rtpTimestamp).toFloat / 90000) = now
  have hzero : durationCast ((0 : UInt32).toFloat / 90000) = 0 := by decide +kernel
  rw [UInt32.sub_self, hzero, Int.add_zero]

theorem ticks_pace (env : Env M) (now : Int) (s : Session M) : Ticks env now s (s.pace env now) := by
  unfold pace
  split
  · next hnone =>
      refine .idle fun hs => ?_
      have := hs.2.1
      rw [hnone] at this
      cases this
  · next source hsource =>
      split
      · next hguard =>
          refine .idle fun hs => ?_
          rcases hguard with h | h
          · exact h hs.1
          · rw [hs.2.2] at h
            cases h
      · next hguard =>
          obtain ⟨hstate, hready⟩ := not_or.mp hguard
          have hs : s.Streaming :=
            ⟨not_not.mp hstate, by rw [hsource]; rfl, Bool.of_not_eq_false hready⟩
          rcases fetchFrame_passes_or_holds now source s with hp | ⟨vp, source', hh⟩
          · have hidle : (s.fetchFrame now source).pacePending env now = s.fetchFrame now source := by
              unfold pacePending
              rw [hp.pendingVp]
              split
              · next h => cases h
              · rfl
            rw [hidle]
            exact .passes hs hsource hp
          · obtain ⟨hm, hvp, hgate, hfirst⟩ := hh.facts hsource
            generalize s.fetchFrame now source = t at hh hm hvp hgate hfirst
            unfold pacePending
            rw [hm, hvp]
            dsimp only
            rw [anchor_eq now source' vp hgate]
            unfold playFrame
            dsimp only
            cases hff : s.firstFrame with
            | true =>
                rw [if_pos (hfirst.trans hff), mediaTicks_anchorAt, sendTime_anchorAt,
                  if_neg (lt_irrefl now)]
                exact .starts hs hsource hh hff
            | false =>
                have hno : ¬ t.firstFrame = true := by
                  rw [hfirst, hff]
                  exact Bool.false_ne_true
                rw [if_neg hno]
                split
                · next hdue => exact .waits hs hsource hh hff hdue
                · next hdue => exact .sends hs hsource hh hff (not_lt.mp hdue)

/-! ## What is sent -/

/-- Steps 8 and 9: the packets of the frame, then audio packets. -/
theorem deliver_spec (env : Env M) (now : Int) (source : M) (vp : VideoPacket) (s : Session M) :
    ∃ tail, (s.deliver env now source vp).log = s.log ++ .sending vp :: tail ∧
      (∀ e ∈ tail, e.packetTrack.isSome = true) ∧
      ∃ seq loads close aseq held n, s.deliver env now source vp =
        { s.trackFrame source vp with
          rtpSeq := seq, loads := loads, closeAfterWrite := close, audioRtpSeq := aseq
          pendingAp := held, log := s.log ++ .sending vp :: tail
          mediaSource := s.mediaSource.map ((fun m => (readAudioPacket m).2)^[n]) } := by
  obtain ⟨loads, close, tail, heq, htail⟩ := sendFrame_spec env source vp s
  obtain ⟨aseq, loads', close', tail', held, n, heq', htail'⟩ :=
    paceAudio_spec env now source ((s.sendFrame env source vp).trackFrame source vp)
  have hdeliver : s.deliver env now source vp = { s.trackFrame source vp with
      rtpSeq := s.rtpSeq + UInt16.ofNat (framePayloads (nalList (streamInfo source) vp)).length
      loads := loads', closeAfterWrite := close', audioRtpSeq := aseq, pendingAp := held
      log := s.log ++ .sending vp :: (tail ++ tail')
      mediaSource := s.mediaSource.map ((fun m => (readAudioPacket m).2)^[n]) } := by
    unfold deliver
    rw [heq', heq]
    simp only [trackFrame, List.append_assoc, List.cons_append]
    rfl
  refine ⟨tail ++ tail', by rw [hdeliver], fun e he => ?_, _, _, _, _, _, _, hdeliver⟩
  rcases List.mem_append.mp he with he | he
  · have hmem : e.videoPacket ∈ (rtpPackets vp.rtpTimestamp s.ssrc s.rtpSeq
        (framePayloads (nalList (streamInfo source) vp))).map some := by
      rw [← htail]
      exact List.mem_map_of_mem he
    obtain ⟨p, -, hp⟩ := List.mem_map.mp hmem
    unfold Event.videoPacket at hp
    split at hp
    · rfl
    · rfl
    · rfl
    · cases hp
  · rw [htail' e he]
    rfl

theorem Passes.log {now : Int} {source : M} {s t : Session M} (h : Passes now source s t) :
    t.log = s.log ∨ t.log = s.log ++ [.sought] := by
  cases h
  case ended => exact .inr rfl
  all_goals exact .inl rfl

theorem Holds.log {now : Int} {source source' : M} {vp : VideoPacket} {s t : Session M}
    (h : Holds now source s vp source' t) : t.log = s.log := by
  cases h <;> rfl

/-- The events of a tick whose frame anchors the clock. -/
theorem starts_log (env : Env M) (now : Int) (source : M) (vp : VideoPacket) (t : Session M) :
    ∃ packets, (((t.anchorAt now source vp).emit (.timed vp 0)).deliver env now source vp).log =
        t.log ++ .anchored vp now :: .timed vp 0 :: .sending vp :: packets ∧
      ∀ e ∈ packets, e.packetTrack.isSome = true := by
  obtain ⟨packets, hlog, hpackets, -⟩ :=
    deliver_spec env now source vp ((t.anchorAt now source vp).emit (.timed vp 0))
  exact ⟨packets, hlog.trans ((List.append_assoc ..).trans (List.append_assoc ..)), hpackets⟩

/-- The events of a tick that sends a later frame. -/
theorem sends_log (env : Env M) (now : Int) (source : M) (vp : VideoPacket) (t : Session M) :
    ∃ packets, ((t.emit (.timed vp (t.mediaTicks vp))).deliver env now source vp).log =
        t.log ++ .timed vp (t.mediaTicks vp) :: .sending vp :: packets ∧
      ∀ e ∈ packets, e.packetTrack.isSome = true := by
  obtain ⟨packets, hlog, hpackets, -⟩ :=
    deliver_spec env now source vp (t.emit (.timed vp (t.mediaTicks vp)))
  exact ⟨packets, hlog.trans (List.append_assoc ..), hpackets⟩

/-- The events of a tick: none, a seek at the end of the source, a frame that is timed, or one
    that is sent. -/
theorem Ticks.events {env : Env M} {now : Int} {s s' : Session M} {l : List Event}
    (h : Ticks env now s s') (hlog : s'.log = s.log ++ l) :
    l = [] ∨
    (∃ source source' wall pause, s.mediaSource = some source ∧
      readPacket source = (none, source') ∧ l = [.sought] ∧
      s' = { s with wallStart := wall, pauseStart := pause, pendingVp := none }.loopSource source') ∨
    (∃ vp k, l = [.timed vp k]) ∨
    ∃ source source' vp t packets, s.Streaming ∧ s.mediaSource = some source ∧
      Holds now source s vp source' t ∧ (∀ e ∈ packets, e.packetTrack.isSome = true) ∧
      (s.firstFrame = true ∧
        s' = ((t.anchorAt now source' vp).emit (.timed vp 0)).deliver env now source' vp ∧
        l = .anchored vp now :: .timed vp 0 :: .sending vp :: packets ∨
      s.firstFrame = false ∧
        s' = (t.emit (.timed vp (t.mediaTicks vp))).deliver env now source' vp ∧
        l = .timed vp (t.mediaTicks vp) :: .sending vp :: packets) := by
  cases h with
  | idle =>
      obtain ⟨pause, heq⟩ := notStreaming_eq now s
      rw [heq] at hlog
      exact .inl (List.self_eq_append_right.mp hlog)
  | passes _ hsource hp =>
      cases hp
      case ended wall pause source' _ _ hread =>
        exact .inr (.inl ⟨_, source', wall, pause, hsource, hread,
          (List.append_cancel_left hlog).symm, rfl⟩)
      all_goals exact .inl (List.self_eq_append_right.mp hlog)
  | @waits source source' vp t _ _ hh =>
      change t.log ++ _ = _ at hlog
      rw [hh.log] at hlog
      exact .inr (.inr (.inl ⟨vp, _, (List.append_cancel_left hlog).symm⟩))
  | @starts source source' vp t hs hsource hh hff =>
      obtain ⟨packets, hlog', hp⟩ := starts_log env now source' vp t
      rw [hlog, hh.log] at hlog'
      exact .inr (.inr (.inr ⟨source, source', vp, t, packets, hs, hsource, hh, hp,
        .inl ⟨hff, rfl, List.append_cancel_left hlog'⟩⟩))
  | @sends source source' vp t hs hsource hh hff =>
      obtain ⟨packets, hlog', hp⟩ := sends_log env now source' vp t
      rw [hlog, hh.log] at hlog'
      exact .inr (.inr (.inr ⟨source, source', vp, t, packets, hs, hsource, hh, hp,
        .inr ⟨hff, rfl, List.append_cancel_left hlog'⟩⟩))

omit [IMediaSource M] in
/-- A mark of the tick is none of its packets. -/
theorem not_mem_packets {e : Event} {packets : List Event} (he : e.packetTrack = none)
    (h : ∀ e ∈ packets, e.packetTrack.isSome = true) : e ∉ packets := by
  intro hmem
  have hsome := h e hmem
  rw [he] at hsome
  cases hsome

/-- The tick that anchors the clock. -/
theorem Ticks.of_anchored {env : Env M} {now t0 : Int} {s s' : Session M} {l : List Event}
    {vp : VideoPacket} (h : Ticks env now s s') (hlog : s'.log = s.log ++ l)
    (hl : .anchored vp t0 ∈ l) :
    t0 = now ∧ s.Streaming ∧ s.firstFrame = true ∧ ∃ source source' t,
      s.mediaSource = some source ∧ Holds now source s vp source' t ∧
      s' = ((t.anchorAt now source' vp).emit (.timed vp 0)).deliver env now source' vp := by
  rcases h.events hlog with rfl | ⟨_, _, _, _, -, -, rfl, -⟩ | ⟨_, _, rfl⟩ |
    ⟨source, source', vp', t, packets, hs, hsource, hh, hp, ⟨hff, heq, rfl⟩ | ⟨-, -, rfl⟩⟩
  · cases hl
  · simp at hl
  · simp at hl
  · have hno : .anchored vp t0 ∉ packets := not_mem_packets rfl hp
    obtain ⟨rfl, rfl⟩ : vp = vp' ∧ t0 = now := by simpa [hno] using hl
    exact ⟨rfl, hs, hff, source, source', t, hsource, hh, heq⟩
  · have hno : .anchored vp t0 ∉ packets := not_mem_packets rfl hp
    exact absurd hl (by simpa using hno)

/-! ## Commands -/

theorem Holds.cmdQueue {now : Int} {source source' : M} {vp : VideoPacket} {s t : Session M}
    (h : Holds now source s vp source' t) : t.cmdQueue = s.cmdQueue := by
  cases h <;> rfl

theorem deliver_cmdQueue (env : Env M) (now : Int) (source : M) (vp : VideoPacket) (s : Session M) :
    (s.deliver env now source vp).cmdQueue = s.cmdQueue := by
  obtain ⟨tail, -, -, seq, loads, close, aseq, held, n, heq⟩ := deliver_spec env now source vp s
  rw [heq]
  rfl

theorem Ticks.cmdQueue {env : Env M} {now : Int} {s s' : Session M} (h : Ticks env now s s') :
    s'.cmdQueue = s.cmdQueue := by
  cases h with
  | idle =>
      obtain ⟨pause, heq⟩ := notStreaming_eq now s
      rw [heq]
  | passes _ _ hp => cases hp <;> rfl
  | waits _ _ hh =>
      rw [← hh.cmdQueue]
      rfl
  | starts _ _ hh =>
      rw [deliver_cmdQueue, ← hh.cmdQueue]
      rfl
  | sends _ _ hh =>
      rw [deliver_cmdQueue, ← hh.cmdQueue]
      rfl

end RtspServer
