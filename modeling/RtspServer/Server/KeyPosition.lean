/-
  The key frame that a change of Scale goes back to. `last_keyframe_npt_` is computed from the
  offset of the RTP clock and the distance of the frame from the anchor, and a Scale PLAY seeks to
  it as a position in the file. The two are the same as long as the offset is a position: a seek
  sets it to one, and the end of the source and the shift of a Scale PLAY move it on.

  `Placed` is the invariant while it is: the clock starts at the position of its first frame, which
  is the anchor, and the frames are stamped by their distance from it. `key_position`: then
  `last_keyframe_npt_` is the position of the last key frame sent, up to one 90 kHz tick.
-/
import RtspServer.Media.Landing
import RtspServer.Server.LoopTime

namespace RtspServer

open ByteString Session IMediaSource

variable {D B : Type}

/-! ## Positions -/

namespace MediaSource

/-- The distance of the frame from the first one is in the range of the 90 kHz clock. -/
def InRange (m : MediaSource D B) (vp : VideoPacket) : Prop :=
  0 ≤ m.tick vp ∧ m.tick vp < 4294967296

instance (m : MediaSource D B) (vp : VideoPacket) : Decidable (m.InRange vp) :=
  inferInstanceAs (Decidable (_ ∧ _))

/-- The frame is stamped by the clock; a key frame is in its range. -/
structure OnClock (m : MediaSource D B) (vp : VideoPacket) : Prop where
  stamp : vp.rtpTimestamp = m.toRTPTimestamp (vp.pktData.time - m.firstPts)
  range : vp.isKeyFrame = true → m.InRange vp

theorem InPlace.keeps {m m' : MediaSource D B} (h : m.InPlace) (hk : Keeps m m') : m'.InPlace := by
  unfold InPlace
  rw [hk.firstPts h.1, hk.rtpOffset, hk.timeBase]
  exact h

theorem InRange.keeps {m m' : MediaSource D B} {vp : VideoPacket} (h : m.InRange vp)
    (hplace : m.InPlace) (hk : Keeps m m') : m'.InRange vp := by
  unfold InRange tick
  rw [hk.firstPts hplace.1, hk.timeBase]
  exact h

theorem OnClock.keeps {m m' : MediaSource D B} {vp : VideoPacket} (h : m.OnClock vp)
    (hplace : m.InPlace) (hk : Keeps m m') : m'.OnClock vp := by
  refine ⟨?_, fun hkey => (h.range hkey).keeps hplace hk⟩
  unfold toRTPTimestamp
  rw [hk.firstPts hplace.1, hk.rtpOffset, hk.timeBase]
  exact h.stamp

/-- The first frame of the clock. -/
theorem onClock_first {m : MediaSource D B} {vp : VideoPacket}
    (hstamp : vp.rtpTimestamp = m.rtpOffset) (htime : vp.pktData.time = m.firstPts) :
    m.OnClock vp := by
  refine ⟨?_, fun _ => ?_⟩
  · unfold toRTPTimestamp
    rw [htime, Int.sub_self, avRescaleQ_zero, toUInt32_zero, UInt32.zero_add]
    exact hstamp
  · unfold InRange tick
    rw [htime, Int.sub_self, avRescaleQ_zero]
    decide

/-- What step 8b computes for a key frame. -/
theorem position_error {m : MediaSource D B} {vp : VideoPacket} (hplace : m.InPlace)
    (hclock : m.OnClock vp) (hkey : vp.isKeyFrame = true) :
    |(m.rtpOffset.toNat : Rat) / 90000 + ((vp.rtpTimestamp - m.rtpOffset).toNat : Rat) / 90000 -
      m.timeBase.secs vp.pktData.time| ≤ 1 / 90000 := by
  have hticks : ((vp.rtpTimestamp - m.rtpOffset).toNat : Rat) = m.tick vp := by
    have hsub : vp.rtpTimestamp - m.rtpOffset = toUInt32 (m.tick vp) := by
      rw [hclock.stamp]
      exact UInt32.add_sub_cancel _ _
    have hrange := hclock.range hkey
    have hnat : ((toUInt32 (m.tick vp)).toNat : Int) = m.tick vp :=
      (toUInt32_toNat _).trans (Int.emod_eq_of_lt hrange.1 hrange.2)
    rw [hsub, ← Int.cast_natCast, hnat]
  have hsecs : m.timeBase.secs vp.pktData.time =
      m.timeBase.secs m.firstPts + m.timeBase.secs (vp.pktData.time - m.firstPts) := by
    unfold TimeBase.secs
    push_cast
    ring
  have hstart := hplace.2
  have hdistance := avRescaleQ_error m.timeBase (vp.pktData.time - m.firstPts)
  change |(m.tick vp : Rat) - _| ≤ _ at hdistance
  rw [hticks, hsecs]
  rw [abs_le] at hstart hdistance ⊢
  constructor
  · linarith
  · linarith

end MediaSource

/-! ## Sent key frames -/

/-- The last key frame. -/
def lastKey (frames : List VideoPacket) : Option VideoPacket :=
  (frames.filter fun vp => vp.isKeyFrame).getLast?

theorem lastKey_concat (frames : List VideoPacket) (vp : VideoPacket) :
    lastKey (frames ++ [vp]) = if vp.isKeyFrame then some vp else lastKey frames := by
  unfold lastKey
  rw [List.filter_append]
  split
  · next h => simp [h]
  · next h => simp [h]

/-- `last_keyframe_npt_` is the position of the last key frame sent since the log had this length,
    up to one tick. -/
def KeyPositioned (base : Nat) (s : Session (MediaSource D B)) : Prop :=
  ∀ source ∈ s.mediaSource, ∀ vp ∈ lastKey (sentSince base s),
    |s.lastKeyframeNpt - source.timeBase.secs vp.pktData.time| ≤ 1 / 90000

variable [FFmpeg D B]

/-- A Scale PLAY seeks to the last key frame sent since then, up to one tick. -/
def ScaleSeeksKey (base : Nat) (s : Session (MediaSource D B)) : Prop :=
  ∀ (env : Env (MediaSource D B)) (req : RTSPRequest) (source : MediaSource D B),
    Scales req s → s.mediaSource = some source → ∀ vp ∈ lastKey (sentSince base s),
      ∃ secs, |secs - source.timeBase.secs vp.pktData.time| ≤ 1 / 90000 ∧
        (s.handlePlay env req).mediaSource = some (s.soughtSource secs true source)

theorem KeyPositioned.scaleSeeksKey {base : Nat} {s : Session (MediaSource D B)}
    (h : KeyPositioned base s) : ScaleSeeksKey base s := by
  intro env req source hscales hsource vp hvp
  obtain ⟨-, hinit, hpaused, hscale⟩ := hscales
  refine ⟨s.lastKeyframeNpt, h source hsource vp hvp, ?_⟩
  have hplay : (s.handlePlay env req).mediaSource =
      (s.seekAndReset s.lastKeyframeNpt true).mediaSource := by
    unfold handlePlay
    rw [if_neg hinit]
    dsimp only
    rw [if_neg hpaused, if_pos hscale]
    rfl
  rcases seekAndReset_eq s.lastKeyframeNpt true s with ⟨hnone, -⟩ | ⟨source', hsome, heq⟩
  · rw [hnone] at hsource
    cases hsource
  · obtain rfl := Option.some.inj (hsome.symm.trans hsource)
    rw [hplay, heq]

/-- The source is as a seek left it, with the next frame prefetched or not, and the clock starts in
    place. -/
def MediaSource.WaitsInPlace (n : MediaSource D B) : Prop :=
  ∃ m : MediaSource D B, m.StartsInPlace ∧ m.firstPts = avNoPtsValue ∧ MediaSource.AsSought m n

/-- The clock runs from a position on, and the session is anchored at its start. -/
structure Running (m : MediaSource D B) (s : Session (MediaSource D B)) : Prop where
  prefetchVp : m.prefetchVp = none
  place : m.InPlace
  offset : s.loopVideoOffset = m.rtpOffset
  held : ∀ vp, s.pendingVp = some vp → m.OnClock vp

structure Placed (base : Nat) (s : Session (MediaSource D B)) : Prop where
  len : base ≤ s.log.length
  waiting : s.firstFrame = true → ∀ m, s.mediaSource = some m → m.WaitsInPlace
  running : s.firstFrame = false → ∀ m, s.mediaSource = some m → Running m s
  keys : KeyPositioned base s

/-! ## Steps that send nothing -/

/-- What such a step leaves alone. -/
structure Unsent (s : Session (MediaSource D B)) (l : List Event)
    (s' : Session (MediaSource D B)) : Prop where
  log : s'.log = s.log ++ l
  sent : sentFrames l = []
  npt : s'.lastKeyframeNpt = s.lastKeyframeNpt
  source : ∀ m', s'.mediaSource = some m' →
    ∃ m, s.mediaSource = some m ∧ m'.timeBase = m.timeBase

section

variable {base : Nat} {s s' : Session (MediaSource D B)} {l : List Event}

omit [FFmpeg D B] in
theorem Unsent.len (h : Unsent s l s') (hlen : base ≤ s.log.length) : base ≤ s'.log.length := by
  rw [h.log, List.length_append]
  exact Nat.le_add_right_of_le hlen

omit [FFmpeg D B] in
theorem Unsent.keys (h : Unsent s l s') (hlen : base ≤ s.log.length)
    (hkeys : KeyPositioned base s) : KeyPositioned base s' := by
  intro m' hm' vp hvp
  obtain ⟨m, hm, htb⟩ := h.source m' hm'
  rw [sentSince_of_log hlen h.log, h.sent, List.append_nil] at hvp
  rw [h.npt, htb]
  exact hkeys m hm vp hvp

/-- The frames are left alone. -/
theorem Placed.of_same (h : Placed base s) (hlog : s'.log = s.log ++ l) (hsent : sentFrames l = [])
    (hsource : s'.mediaSource = s.mediaSource) (hfirst : s'.firstFrame = s.firstFrame)
    (hoffset : s'.loopVideoOffset = s.loopVideoOffset)
    (hnpt : s'.lastKeyframeNpt = s.lastKeyframeNpt)
    (hheld : s'.pendingVp = none ∨ s'.pendingVp = s.pendingVp) : Placed base s' := by
  have hunsent : Unsent s l s' := ⟨hlog, hsent, hnpt, fun m hm => ⟨m, hsource ▸ hm, rfl⟩⟩
  refine ⟨hunsent.len h.len, fun hff m hm => h.waiting (hfirst ▸ hff) m (hsource ▸ hm),
    fun hff m hm => ?_, hunsent.keys h.len h.keys⟩
  have hrun := h.running (hfirst ▸ hff) m (hsource ▸ hm)
  refine ⟨hrun.prefetchVp, hrun.place, hoffset.trans hrun.offset, fun vp hvp => ?_⟩
  rcases hheld with hheld | hheld
  · rw [hheld] at hvp
    cases hvp
  · exact hrun.held vp (hheld ▸ hvp)

theorem Placed.aside (h : Placed base s) (ha : Aside s s') : Placed base s' := by
  obtain ⟨tail, htail, hex⟩ := ha.log
  exact h.of_same htail (nothingSent_of_exchange hex).1 (congrArg Stream.source ha.stream)
    (congrArg Stream.firstFrame ha.stream) (congrArg Stream.loopVideoOffset ha.stream)
    (congrArg Stream.lastKeyframeNpt ha.stream) (.inr (congrArg Stream.pendingVp ha.stream))

/-- A seek. -/
theorem Placed.of_seek {m' : MediaSource D B} (h : Placed base s) (hunsent : Unsent s l s')
    (hfirst : s'.firstFrame = true) (hsource : s'.mediaSource = some m') (hm' : m'.WaitsInPlace) :
    Placed base s' := by
  refine ⟨hunsent.len h.len, fun _ m hm => ?_, fun hff => ?_, hunsent.keys h.len h.keys⟩
  · obtain rfl := Option.some.inj (hsource.symm.trans hm)
    exact hm'
  · rw [hfirst] at hff
    cases hff

/-- A frame is read. -/
theorem Placed.of_read {m' : MediaSource D B} (h : Placed base s) (hunsent : Unsent s l s')
    (hfirst : s'.firstFrame = false) (hsource : s'.mediaSource = some m') (hm' : Running m' s') :
    Placed base s' := by
  refine ⟨hunsent.len h.len, fun hff => ?_, fun _ m hm => ?_, hunsent.keys h.len h.keys⟩
  · rw [hfirst] at hff
    cases hff
  · obtain rfl := Option.some.inj (hsource.symm.trans hm)
    exact hm'

end

/-! ## Reading and sending -/

/-- The next frame of a running clock. -/
theorem Running.read {m m' : MediaSource D B} {vp : VideoPacket}
    {s s' : Session (MediaSource D B)} (h : Running m s) (hread : m.readPacket = (some vp, m'))
    (hoffset : s'.loopVideoOffset = s.loopVideoOffset)
    (hheld : s'.pendingVp = none ∨
      s'.pendingVp = some vp ∧ (vp.isKeyFrame = true → m'.InRange vp)) : Running m' s' := by
  obtain ⟨hkeeps, hprocessed⟩ := MediaSource.readPacket_some hread h.prefetchVp
  refine ⟨hkeeps.prefetchVp.trans h.prefetchVp, h.place.keeps hkeeps,
    (hoffset.trans h.offset).trans hkeeps.rtpOffset.symm, fun vp' hvp => ?_⟩
  rcases hheld with hheld | ⟨hheld, hrange⟩
  · rw [hheld] at hvp
    cases hvp
  · obtain rfl := Option.some.inj (hheld.symm.trans hvp)
    exact ⟨hprocessed.rtpTimestamp, hrange⟩

/-- The first frame of a clock that starts in place: a key frame, at which the session is
    anchored. -/
theorem MediaSource.WaitsInPlace.read {m m' : MediaSource D B} {vp : VideoPacket}
    {s : Session (MediaSource D B)} (h : m.WaitsInPlace) (hread : m.readPacket = (some vp, m'))
    (hoffset : s.loopVideoOffset = vp.rtpTimestamp) (hheld : s.pendingVp = some vp) :
    Running m' s := by
  obtain ⟨n, hstarts, hfirst, hn⟩ := h
  obtain ⟨-, -, hstamp, htime, hplace⟩ := hstarts.read hfirst hn hread
  refine ⟨MediaSource.prefetchVp_readPacket hread, hplace, hoffset.trans hstamp, fun vp' hvp => ?_⟩
  obtain rfl := Option.some.inj (hheld.symm.trans hvp)
  exact MediaSource.onClock_first hstamp htime

/-- Steps 8 and 9: a key frame leaves its position. -/
theorem Placed.deliver {base : Nat} {env : Env (MediaSource D B)} {now : Int}
    {m : MediaSource D B} {vp : VideoPacket} {s : Session (MediaSource D B)} (h : Placed base s)
    (hfirst : s.firstFrame = false) (hsource : s.mediaSource = some m)
    (hheld : s.pendingVp = some vp) : Placed base (s.deliver env now m vp) := by
  obtain ⟨tail, hlog, htail, seq, loads, close, aseq, held, n, heq⟩ := deliver_spec env now m vp s
  have hrun := h.running hfirst m hsource
  have hkeeps := readAudio_keeps n m
  have hsource' : (s.deliver env now m vp).mediaSource =
      some ((fun m => (readAudioPacket m).2)^[n] m) := by
    rw [heq]
    exact congrArg (Option.map _) hsource
  have hfirst' : (s.deliver env now m vp).firstFrame = false := by
    rw [heq]
    exact hfirst
  refine ⟨?_, fun hff => ?_, fun _ m' hm' => ?_, fun m' hm' vp' hvp => ?_⟩
  · rw [hlog, List.length_append]
    exact Nat.le_add_right_of_le h.len
  · rw [hfirst'] at hff
    cases hff
  · obtain rfl := Option.some.inj (hsource'.symm.trans hm')
    refine ⟨hkeeps.prefetchVp.trans hrun.prefetchVp, hrun.place.keeps hkeeps, ?_, fun vp' hvp => ?_⟩
    · rw [heq, hkeeps.rtpOffset]
      exact hrun.offset
    · rw [heq] at hvp
      cases hvp
  · obtain rfl := Option.some.inj (hsource'.symm.trans hm')
    have hnpt : (s.deliver env now m vp).lastKeyframeNpt =
        if vp.isKeyFrame then (m.rtpOffset.toNat : Rat) / 90000 +
          ((vp.rtpTimestamp - s.loopVideoOffset).toNat : Rat) / 90000
        else s.lastKeyframeNpt := by
      rw [heq]
      rfl
    rw [sentSince_of_log h.len hlog, sentFrames_sending vp htail, lastKey_concat] at hvp
    rw [hnpt, hkeeps.timeBase]
    by_cases hkey : vp.isKeyFrame = true
    · rw [if_pos hkey] at hvp ⊢
      obtain rfl := Option.some.inj hvp
      rw [hrun.offset]
      exact MediaSource.position_error hrun.place (hrun.held vp hheld) hkey
    · rw [if_neg hkey] at hvp ⊢
      exact h.keys m hsource vp' hvp

/-! ## Ticks -/

/-- What a tick reads: a key frame to be sent is in the range of the clock, and the first frame after
    a seek is not behind the end of the range. At the end of the source the clock starts in place
    again. -/
def ReadsInPlace (s : Session (MediaSource D B)) :
    Option VideoPacket × MediaSource D B → Prop
  | (some vp, source) =>
      (s.firstFrame = true → s.reachedEnd vp = false) ∧
        (s.firstFrame = false → vp.nals ≠ [] → s.reachedEnd vp = false → vp.isKeyFrame = true →
          source.InRange vp)
  | (none, source) => (source.seek (s.lastVideoRtp + s.lastFrameDur.getD 0)).StartsInPlace

def TickInPlace (s : Session (MediaSource D B)) : Prop :=
  s.Streaming → s.firstFrame = true ∨ s.pendingVp = none →
    ∀ source ∈ s.mediaSource, ReadsInPlace s (readPacket source)

section

variable {base : Nat} {now : Int} {source source' : MediaSource D B} {vp : VideoPacket}
  {s t : Session (MediaSource D B)}

theorem placed_ended {wall pause : Int} (h : Placed base s)
    (hsource : s.mediaSource = some source) (hread : source.readPacket = (none, source'))
    (hplace : (source'.seek (s.lastVideoRtp + s.lastFrameDur.getD 0)).StartsInPlace) :
    Placed base ({ s with
      wallStart := wall, pauseStart := pause, pendingVp := none }.loopSource source') := by
  have htb : source'.timeBase = source.timeBase := MediaSource.timeBase_readPacket hread
  refine h.of_seek (l := [.sought]) ⟨rfl, rfl, rfl, fun m hm => ⟨source, hsource, ?_⟩⟩ rfl rfl
    ⟨_, hplace, rfl, .inl rfl⟩
  obtain rfl := Option.some.inj hm
  exact htb

/-- A frame that is read. -/
theorem placed_read (h : Placed base s) (hsource : s.mediaSource = some source)
    (hread : source.readPacket = (some vp, source')) (hff : s.firstFrame = false)
    (hlog : t.log = s.log) (hfirst : t.firstFrame = s.firstFrame)
    (hoffset : t.loopVideoOffset = s.loopVideoOffset)
    (hnpt : t.lastKeyframeNpt = s.lastKeyframeNpt) (hsource' : t.mediaSource = some source')
    (hheld : t.pendingVp = none ∨
      t.pendingVp = some vp ∧ (vp.isKeyFrame = true → source'.InRange vp)) : Placed base t := by
  have hrun := h.running hff source hsource
  have hkeeps := (MediaSource.readPacket_some hread hrun.prefetchVp).1
  have hunsent : Unsent s [] t := by
    refine ⟨hlog.trans (List.append_nil _).symm, rfl, hnpt, fun m hm => ⟨source, hsource, ?_⟩⟩
    obtain rfl := Option.some.inj (hsource'.symm.trans hm)
    exact hkeeps.timeBase
  exact h.of_read hunsent (hfirst.trans hff) hsource' (hrun.read hread hoffset hheld)

/-- A tick that passes without a frame. -/
theorem placed_passes (h : Placed base s) (hs : s.Streaming) (hsource : s.mediaSource = some source)
    (hplace : TickInPlace s) (hp : Passes now source s t) : Placed base t := by
  have hreads : ∀ r, (s.firstFrame = true ∨ s.pendingVp = none) → source.readPacket = r →
      ReadsInPlace s r := by
    intro r hnone hread
    have := hplace hs hnone source hsource
    rwa [show readPacket source = r from hread] at this
  cases hp with
  | gated => exact h.of_same (List.append_nil _).symm rfl rfl rfl rfl rfl (.inl rfl)
  | ended _ _ source' _ hnone hread =>
      exact placed_ended h hsource hread (hreads _ hnone hread)
  | skipped _ _ vp source' _ hnone hread hskip =>
      rcases Bool.eq_false_or_eq_true s.firstFrame with hff | hff
      · -- the frame that is waited for is not passed over
        obtain ⟨n, hstarts, hfirst, hn⟩ := h.waiting hff source hsource
        obtain ⟨hkey, hnals, -⟩ := hstarts.read hfirst hn hread
        rcases hskip with hskip | ⟨-, hskip⟩
        · exact absurd hskip hnals
        · rw [hskip] at hkey
          cases hkey
      · exact placed_read h hsource hread hff rfl rfl rfl rfl rfl (.inl rfl)
  | stopped _ _ vp source' _ hnone hread _ _ hend =>
      rcases Bool.eq_false_or_eq_true s.firstFrame with hff | hff
      · have hbefore := (hreads _ hnone hread).1 hff
        rw [hend] at hbefore
        cases hbefore
      · exact placed_read h hsource hread hff rfl rfl rfl rfl rfl (.inl rfl)

/-- A tick that holds a frame of a running clock. -/
theorem placed_holds (h : Placed base s) (hs : s.Streaming) (hsource : s.mediaSource = some source)
    (hplace : TickInPlace s) (hff : s.firstFrame = false) (hh : Holds now source s vp source' t) :
    Placed base t := by
  cases hh with
  | kept => exact h.of_same (List.append_nil _).symm rfl rfl rfl rfl rfl (.inr rfl)
  | read _ _ _ _ _ hnone hread hnals _ hend =>
      have hreads := hplace hs hnone source hsource
      rw [hread] at hreads
      exact placed_read h hsource hread hff rfl rfl rfl rfl rfl
        (.inr ⟨rfl, hreads.2 hff hnals hend⟩)

/-- The tick that anchors the session. -/
theorem placed_anchorAt (h : Placed base s) (hsource : s.mediaSource = some source)
    (hff : s.firstFrame = true) (hh : Holds now source s vp source' t) :
    Placed base (t.anchorAt now source' vp) := by
  cases hh with
  | kept _ _ _ _ hno =>
      rw [hff] at hno
      cases hno
  | read _ _ _ _ _ _ hread =>
      have hwaits := h.waiting hff source hsource
      have htb : source'.timeBase = source.timeBase := MediaSource.timeBase_readPacket hread
      refine h.of_read (l := [.anchored vp now]) ⟨rfl, rfl, rfl, fun m hm => ⟨source, hsource, ?_⟩⟩
        rfl rfl (hwaits.read hread rfl rfl)
      obtain rfl := Option.some.inj hm
      exact htb

end

theorem placed_ticks {base : Nat} {env : Env (MediaSource D B)} {now : Int}
    {s s' : Session (MediaSource D B)} (h : Placed base s) (hplace : TickInPlace s)
    (hticks : Ticks env now s s') : Placed base s' := by
  cases hticks with
  | idle =>
      obtain ⟨pause, heq⟩ := notStreaming_eq now s
      rw [heq]
      refine h.of_same (List.append_nil _).symm rfl rfl rfl rfl rfl ?_
      dsimp only
      split
      · exact .inr rfl
      · exact .inl rfl
  | passes hs hsource hp => exact placed_passes h hs hsource hplace hp
  | waits hs hsource hh hff =>
      exact (placed_holds h hs hsource hplace hff hh).of_same rfl rfl rfl rfl rfl rfl (.inr rfl)
  | @starts source source' vp t hs hsource hh hff =>
      obtain ⟨hm, hvp, -⟩ := hh.facts hsource
      have hanchor := placed_anchorAt h hsource hff hh
      have htimed : Placed base ((t.anchorAt now source' vp).emit (.timed vp 0)) :=
        hanchor.of_same rfl rfl rfl rfl rfl rfl (.inr rfl)
      exact htimed.deliver rfl hm hvp
  | @sends source source' vp t hs hsource hh hff =>
      obtain ⟨hm, hvp, -, hfirst⟩ := hh.facts hsource
      have htimed : Placed base (t.emit (.timed vp (t.mediaTicks vp))) :=
        (placed_holds h hs hsource hplace hff hh).of_same rfl rfl rfl rfl rfl rfl (.inr rfl)
      exact htimed.deliver (hfirst.trans hff) hm hvp

/-! ## Requests -/

/-- A Scale PLAY lands on a key frame, and the clock is not moved on from there. -/
def ScaleInPlace (s : Session (MediaSource D B)) : Prop :=
  ∀ source ∈ s.mediaSource, source.LandsOnKey s.lastKeyframeNpt ∧
    (s.lastVideoRtp = 0 ∨ s.lastVideoRtp ≤ (source.seekToSeconds s.lastKeyframeNpt).rtpOffset)

/-- Where a fresh PLAY starts. -/
def playStart (env : Env (MediaSource D B)) (req : RTSPRequest) : Rat :=
  (parseRange env (req.header (ascii "range"))).1.getD 0

/-- A fresh PLAY lands on a key frame. -/
def FreshInPlace (env : Env (MediaSource D B)) (req : RTSPRequest)
    (s : Session (MediaSource D B)) : Prop :=
  ∀ source ∈ s.mediaSource, source.LandsOnKey (playStart env req)

theorem placed_scales {base : Nat} {s s' : Session (MediaSource D B)} (h : Placed base s)
    (hplace : ScaleInPlace s) (ha : Aside (s.seekAndReset s.lastKeyframeNpt true) s') :
    Placed base s' := by
  refine Placed.aside ?_ ha
  rcases seekAndReset_eq s.lastKeyframeNpt true s with ⟨-, heq⟩ | ⟨source, hsource, heq⟩
  · rw [heq]
    exact h
  · obtain ⟨hlands, hshift⟩ := hplace source hsource
    have hsought : s.soughtSource s.lastKeyframeNpt true source =
        source.seekToSeconds s.lastKeyframeNpt := by
      refine if_neg fun hadjust => ?_
      rcases hshift with hzero | hle
      · exact hadjust.2.1 hzero
      · exact absurd hadjust.2.2 (UInt32.not_lt.mpr hle)
    rw [hsought] at heq
    have hlanded := MediaSource.lands_seekToSeconds s.lastKeyframeNpt source
    rw [heq]
    refine h.of_seek (l := [.sought]) ⟨rfl, rfl, rfl, fun m hm => ⟨source, hsource, ?_⟩⟩ rfl rfl
      ⟨_, hlands.startsInPlace, hlanded.firstPts, .inl rfl⟩
    obtain rfl := Option.some.inj hm
    exact hlanded.timeBase

theorem placed_handleNext {base : Nat} (env : Env (MediaSource D B)) {req : RTSPRequest}
    (rest : List RTSPRequest) {s : Session (MediaSource D B)} (h : Placed base s)
    (hgoes : GoesOn req s) (hplace : Scales req s → ScaleInPlace s) :
    Placed base (sessionOf (s.handleNext env req rest)) := by
  obtain ⟨l, hl⟩ := handleNext_log env req rest s
  obtain ⟨hserves, hlog⟩ := handleNext_serves env rest hgoes.1 hl
  have htaken : Placed base ({ s with cmdQueue := rest }.emit (.request req)) :=
    h.of_same rfl rfl rfl rfl rfl rfl (.inr rfl)
  cases hserves with
  | aside ha => exact htaken.aside ha
  | scales hplay hinit hpaused hscale ha =>
      exact placed_scales htaken (hplace ⟨hplay, hinit, hpaused, hscale⟩) ha
  | plays _ _ hplay hinit hpaused hscale => exact absurd ⟨hplay, hinit, hpaused, hscale⟩ hgoes.2

theorem soughtSource_unadjusted (secs : Rat) (source : MediaSource D B)
    (s : Session (MediaSource D B)) :
    s.soughtSource secs false source = source.seekToSeconds secs := by
  unfold soughtSource
  exact if_neg fun hadjust => Bool.false_ne_true hadjust.1

/-- A fresh PLAY: the session afterwards, and its answer. -/
theorem freshPlay_eq (env : Env (MediaSource D B)) {req : RTSPRequest}
    {s : Session (MediaSource D B)} (h : PlaysAfresh req s) :
    ∃ stop range, sessionOf (s.handleRequest env req) =
      ((s.freshPlay (playStart env req) stop).rtpInfo req.url).2.playDone env req range
        ((s.freshPlay (playStart env req) stop).rtpInfo req.url).1 := by
  obtain ⟨hplay, hinit, hpaused, hscale⟩ := h
  rw [handleRequest_play env s hplay]
  unfold sessionOf handlePlay
  rw [if_neg hinit]
  dsimp only
  rw [if_neg hpaused, if_neg (not_not.mpr hscale)]
  exact ⟨_, _, rfl⟩

/-- A fresh PLAY seeks, and the source reads one frame ahead. -/
theorem aside_freshPlay (env : Env (MediaSource D B)) {req : RTSPRequest}
    {s : Session (MediaSource D B)} (h : PlaysAfresh req s) :
    ∃ stop, Aside ((s.freshPlay (playStart env req) stop).rtpInfo req.url).2
      (sessionOf (s.handleRequest env req)) := by
  obtain ⟨stop, range, heq⟩ := freshPlay_eq env h
  rw [heq]
  exact ⟨stop, aside_playDone env req _ _ _⟩

theorem placed_freshPlay {s : Session (MediaSource D B)} {env : Env (MediaSource D B)}
    {fresh : RTSPRequest} {t : Handled (MediaSource D B)}
    (hfresh : s.cmdQueue.head? = some fresh) (hplays : PlaysAfresh fresh s)
    (hplace : FreshInPlace env fresh s) (h : sessionStep (.ok s) (.handle env) = some t) :
    Placed (sessionOf t).log.length (sessionOf t) := by
  obtain ⟨req, rest, hq, rfl⟩ := handle_cases h
  obtain rfl : req = fresh := by
    rw [hq] at hfresh
    exact Option.some.inj hfresh
  obtain ⟨stop, ha⟩ :=
    aside_freshPlay env (s := { s with cmdQueue := rest }.emit (.request req)) hplays
  change Aside _ (sessionOf (s.handleNext env req rest)) at ha
  generalize sessionOf (s.handleNext env req rest) = s' at ha
  have hempty : sentSince s'.log.length s' = [] := by
    unfold sentSince
    rw [List.drop_length]
    rfl
  have hkeys : KeyPositioned s'.log.length s' := by
    intro m _ vp hvp
    rw [hempty] at hvp
    cases hvp
  rw [rtpInfo_eq] at ha
  have hsource := congrArg Stream.source ha.stream
  have hfirst := congrArg Stream.firstFrame ha.stream
  unfold freshPlay at hsource hfirst
  rcases seekAndReset_eq (playStart env req) false
    ({ s with cmdQueue := rest }.emit (.request req)) with ⟨hnone, heq⟩ | ⟨source, hsome, heq⟩
  · rw [heq] at hsource
    have hsource : s'.mediaSource = none := hsource.trans (congrArg (Option.map _) hnone)
    refine ⟨le_refl _, fun _ m hm => ?_, fun _ m hm => ?_, hkeys⟩ <;>
      rw [hsource] at hm <;> cases hm
  · rw [heq] at hsource hfirst
    rw [soughtSource_unadjusted] at hsource
    refine ⟨le_refl _, fun _ m hm => ?_, fun hff => ?_, hkeys⟩
    · have hlands : source.LandsOnKey (playStart env req) := hplace source hsome
      obtain rfl := Option.some.inj (hsource.symm.trans hm)
      exact ⟨_, hlands.startsInPlace, (MediaSource.lands_seekToSeconds _ source).firstPts,
        .inr rfl⟩
    · rw [show s'.firstFrame = true from hfirst] at hff
      cases hff

/-! ## Runs -/

/-- The condition on a step after a fresh PLAY. -/
def StaysInPlace : Handled (MediaSource D B) → SessionAct (MediaSource D B) → Prop
  | .ok s, .handle _ => ∀ req ∈ s.cmdQueue.head?, Scales req s → ScaleInPlace s
  | .ok s, .pace _ _ => TickInPlace s
  | _, _ => True

theorem placed_step {base : Nat} {t t' : Handled (MediaSource D B)}
    {a : SessionAct (MediaSource D B)} (h : Placed base (sessionOf t)) (hgoes : AfterPlay t a)
    (hplace : StaysInPlace t a) (hstep : sessionStep t a = some t') :
    Placed base (sessionOf t') := by
  cases t with
  | error s => cases hstep
  | ok s =>
      cases a with
      | command req =>
          obtain rfl := Option.some.inj hstep
          exact h.of_same (List.append_nil _).symm rfl rfl rfl rfl rfl (.inr rfl)
      | handle env =>
          obtain ⟨req, rest, hq, rfl⟩ := handle_cases hstep
          have hhead : req ∈ s.cmdQueue.head? := by
            rw [hq]
            rfl
          exact placed_handleNext env rest h (hgoes req hhead) (hplace req hhead)
      | pace env now =>
          obtain rfl := Option.some.inj hstep
          exact placed_ticks h hplace (ticks_pace env now s)

/-- **The remembered key frame is a position in the file** as long as the clock of the source is
    one. For every source and every run after a fresh PLAY without a DESCRIBE or another fresh
    PLAY: where each seek sets the clock to the position of the key frame behind it,
    `last_keyframe_npt_` is the position of the last key frame sent since the PLAY, up to one
    tick, and a Scale PLAY seeks there. -/
theorem key_position (s : Session (MediaSource D B)) (env : Env (MediaSource D B))
    (fresh : RTSPRequest) (t₀ t : Handled (MediaSource D B))
    (post : List (SessionAct (MediaSource D B))) (hfresh : s.cmdQueue.head? = some fresh)
    (hplays : PlaysAfresh fresh s) (hlands : FreshInPlace env fresh s)
    (hstart : sessionStep (.ok s) (.handle env) = some t₀)
    (hrun : Lts.run sessionStep t₀ post = some t)
    (hgoes : Lts.Along sessionStep AfterPlay t₀ post)
    (hplace : Lts.Along sessionStep StaysInPlace t₀ post) :
    KeyPositioned (sessionOf t₀).log.length (sessionOf t) ∧
      ScaleSeeksKey (sessionOf t₀).log.length (sessionOf t) := by
  have hplaced : Placed (sessionOf t₀).log.length (sessionOf t) :=
    Lts.run_invariant (I := fun t => Placed (sessionOf t₀).log.length (sessionOf t))
      (C := fun t a => AfterPlay t a ∧ StaysInPlace t a)
      (fun _ _ _ hI hC h => placed_step hI hC.1 hC.2 h)
      (placed_freshPlay hfresh hplays hlands hstart) (Lts.along_and hgoes hplace) hrun
  exact ⟨hplaced.keys, hplaced.keys.scaleSeeksKey⟩

instance decidableReadsInPlace (s : Session (MediaSource D B)) :
    ∀ r, Decidable (ReadsInPlace s r)
  | (some vp, source) => inferInstanceAs (Decidable ((s.firstFrame = true → s.reachedEnd vp = false) ∧
      (s.firstFrame = false → vp.nals ≠ [] → s.reachedEnd vp = false → vp.isKeyFrame = true →
        source.InRange vp)))
  | (none, source) => inferInstanceAs
      (Decidable (source.seek (s.lastVideoRtp + s.lastFrameDur.getD 0)).StartsInPlace)

instance (s : Session (MediaSource D B)) : Decidable (TickInPlace s) :=
  inferInstanceAs (Decidable (s.Streaming → _))

instance (s : Session (MediaSource D B)) : Decidable (ScaleInPlace s) :=
  inferInstanceAs (Decidable (∀ source ∈ s.mediaSource, _))

instance (env : Env (MediaSource D B)) (req : RTSPRequest) (s : Session (MediaSource D B)) :
    Decidable (FreshInPlace env req s) := inferInstanceAs (Decidable (∀ source ∈ s.mediaSource, _))

instance decidableStaysInPlace : ∀ (t : Handled (MediaSource D B))
    (a : SessionAct (MediaSource D B)), Decidable (StaysInPlace t a)
  | .ok s, .handle _ =>
      inferInstanceAs (Decidable (∀ req ∈ s.cmdQueue.head?, Scales req s → ScaleInPlace s))
  | .ok s, .pace _ _ => inferInstanceAs (Decidable (TickInPlace s))
  | .ok _, .command _ => isTrue trivial
  | .error _, _ => isTrue trivial

/-- Two key frames, neither of them at 0. -/
def keysLater : List AVPacket :=
  [demoPacket 3600 3600 true, demoPacket 7200 7200 false, demoPacket 90000 90000 true]

/-- A tick that sends the first key frame, a Scale PLAY and three ticks. -/
def scaledBack : List (SessionAct (MediaSource PacketList Unit)) :=
  [.pace (machine keysLater) 1, .command scaleRequest, .handle (machine keysLater)] ++
    ticksAt keysLater [2000000000, 3000000000, 9000000000]

/-- The second key frame is at one second. -/
theorem key_position_keysLater : ∃ s t₀ t,
    Lts.run sessionStep (.ok client) (untilPlay keysLater) = some (.ok s) ∧
      sessionStep (.ok s) (.handle (machine keysLater)) = some t₀ ∧
      Lts.run sessionStep t₀ scaledBack = some t ∧
      (lastKey (sentSince (sessionOf t₀).log.length (sessionOf t))).map
        (fun vp => vp.pktData.time) = some 90000 ∧
      (sessionOf t).lastKeyframeNpt = 1 ∧
      KeyPositioned (sessionOf t₀).log.length (sessionOf t) := by
  have hrun : ((Lts.run sessionStep (.ok client) (untilPlay keysLater)).bind fun r =>
      (sessionStep r (.handle (machine keysLater))).bind fun t₀ =>
        (Lts.run sessionStep t₀ scaledBack).map fun t =>
          Except.isOk r && decide ((sessionOf r).cmdQueue.head? = some playRequest ∧
            PlaysAfresh playRequest (sessionOf r) ∧
            FreshInPlace (machine keysLater) playRequest (sessionOf r) ∧
            Lts.Along sessionStep AfterPlay t₀ scaledBack ∧
            Lts.Along sessionStep StaysInPlace t₀ scaledBack ∧
            (lastKey (sentSince (sessionOf t₀).log.length (sessionOf t))).map
              (fun vp => vp.pktData.time) = some 90000 ∧
            (sessionOf t).lastKeyframeNpt = 1)) = some true := by
    decide +kernel
  obtain ⟨r, hr, hrest⟩ := Option.bind_eq_some_iff.mp hrun
  obtain ⟨t₀, ht₀, hrest⟩ := Option.bind_eq_some_iff.mp hrest
  obtain ⟨t, ht, hfacts⟩ := Option.map_eq_some_iff.mp hrest
  obtain ⟨hok, hfacts⟩ := Bool.and_eq_true_iff.mp hfacts
  obtain ⟨hfresh, hplays, hlands, hgoes, hplace, hlast, hnpt⟩ := of_decide_eq_true hfacts
  cases r with
  | error s => cases hok
  | ok s =>
      exact ⟨s, t₀, t, hr, ht₀, ht, hlast, hnpt,
        (key_position s (machine keysLater) playRequest t₀ t scaledBack hfresh hplays hlands ht₀ ht
          hgoes hplace).1⟩

/-- After the end of the file the key frame at 0 is sent with the timestamp 10800, and what is
    remembered of it is 0.12 seconds. -/
theorem threeFrames_position_lost : ∃ s t₀ t,
    Lts.run sessionStep (.ok client) (untilPlay threeFrames) = some (.ok s) ∧
      sessionStep (.ok s) (.handle (machine threeFrames)) = some t₀ ∧
      Lts.run sessionStep t₀ (ticksAt threeFrames
        [1, 1000000000, 1000000000, 1000000000, 2000000000]) = some t ∧
      s.cmdQueue.head? = some playRequest ∧ PlaysAfresh playRequest s ∧
      (sessionOf t).lastKeyframeNpt = 3 / 25 ∧
      ¬ KeyPositioned (sessionOf t₀).log.length (sessionOf t) := by
  have hends : (loopRun threeFrames [1, 1000000000, 1000000000, 1000000000, 2000000000]).map
      (fun r => decide (r.1.cmdQueue.head? = some playRequest ∧ PlaysAfresh playRequest r.1 ∧
        (sessionOf r.2.2).lastKeyframeNpt = 3 / 25 ∧ (sessionOf r.2.2).mediaSource.isSome = true ∧
        lastKey (sentSince (sessionOf r.2.1).log.length (sessionOf r.2.2)) =
          some (demoFrame (demoPacket 0 0 true) 10800))) = some true := by
    decide +kernel
  obtain ⟨⟨s, t₀, t⟩, hrun, hall⟩ := Option.map_eq_some_iff.mp hends
  obtain ⟨hs, ht₀, ht⟩ := loopRun_spec hrun
  obtain ⟨hfresh, hplays, hnpt, hsome, hlast⟩ := of_decide_eq_true hall
  refine ⟨s, t₀, t, hs, ht₀, ht, hfresh, hplays, hnpt, fun hpositioned => ?_⟩
  obtain ⟨m, hm⟩ := Option.isSome_iff_exists.mp hsome
  have herror := hpositioned m hm _ hlast
  have hsecs : m.timeBase.secs (demoFrame (demoPacket 0 0 true) 10800).pktData.time = 0 := by
    unfold TimeBase.secs
    rw [show (demoFrame (demoPacket 0 0 true) 10800).pktData.time = 0 from rfl, Int.cast_zero,
      zero_mul, zero_div]
  have hnpt : (sessionOf t).lastKeyframeNpt = 3 / 25 := hnpt
  rw [hnpt, hsecs] at herror
  norm_num at herror

end RtspServer
