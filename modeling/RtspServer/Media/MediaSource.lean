/-
  Model of `media/MediaSource.cpp`: an opened source over the FFmpeg library. `open` is not part
  of it; a source here has its demuxer, its streams and its packet buffer, as every source that
  a session keeps.

  The library is a parameter: the demuxer and the bitstream filter are of any types `D` and `B`
  with the calls the source makes (`FFmpeg`). A file is finite: each packet read leaves fewer.
  `av_rescale_q` is exact, rounded to the nearest integer and halves away from zero. 64-bit
  signed values are integers, the 32-bit RTP clocks are `UInt32`.
-/
import RtspServer.Media.AnnexBParser
import RtspServer.Media.IMediaSource

namespace RtspServer

open ByteString

/-- The answers of `av_bsf_receive_packet`. -/
inductive BsfResult where
  | packet (p : AVPacket)
  | eagain
  | eof
  | error

class FFmpeg (D B : Type) where
  /-- `av_read_frame`, `none` when it returns a negative value -/
  readFrame : D → Option AVPacket × D
  /-- `av_seek_frame` with `AVSEEK_FLAG_BACKWARD` on the video stream; false when it fails -/
  seekFrame : Int → D → Bool × D
  bsfReceive : B → BsfResult × B
  /-- `av_bsf_send_packet`, `none` for the null packet; false when it fails -/
  bsfSend : Option AVPacket → B → Bool × B
  bsfFlush : B → B
  /-- the packets left in the file -/
  remaining : D → Nat
  remaining_lt : ∀ d p d', readFrame d = (some p, d') → remaining d' < remaining d

/-- `AVRational`, with positive parts. -/
structure TimeBase where
  num : Nat
  den : Nat
  num_pos : 0 < num
  den_pos : 0 < den

/-- `av_rescale_rnd` with `AV_ROUND_NEAR_INF`: `a * b / c`, rounded. -/
def avRescale (a : Int) (b c : Nat) : Int :=
  if 0 ≤ a then ((a.toNat * b + c / 2) / c : Nat)
  else -(((-a).toNat * b + c / 2) / c : Nat)

/-- `av_rescale_q` from a time base to units of `1 / rate` seconds. -/
def avRescaleQ (a : Int) (tb : TimeBase) (rate : Nat) : Int := avRescale a (tb.num * rate) tb.den

/-- `static_cast<uint32_t>` of a signed 64-bit value. -/
def toUInt32 (x : Int) : UInt32 := UInt32.ofNat (x % 2 ^ 32).toNat

theorem toUInt32_toNat (x : Int) : ((toUInt32 x).toNat : Int) = x % 2 ^ 32 := by
  unfold toUInt32
  rw [UInt32.toNat_ofNat']
  omega

structure MediaSource (D B : Type) where
  fmtCtx : D
  bsfCtx : Option B
  videoIdx : Int
  timeBase : TimeBase
  streamInfo : H264StreamInfo
  audioInfo : AudioStreamInfo
  audioIdx : Int
  audioTimeBase : TimeBase
  audioFirstPts : Int
  audioRtpOffset : UInt32
  audioQueue : List AudioPacket
  rtpOffset : UInt32
  firstPts : Int
  bsfAtEof : Bool
  prefetchVp : Option VideoPacket

namespace MediaSource

variable {D B : Type}

/-- `toRTPTimestamp`. -/
def toRTPTimestamp (m : MediaSource D B) (pts : Int) : UInt32 :=
  toUInt32 (avRescaleQ pts m.timeBase 90000) + m.rtpOffset

/-- `processPacket`: the frame of a demuxed packet. The first one sets `first_pts_`. -/
def processPacket (p : AVPacket) (m : MediaSource D B) : VideoPacket × MediaSource D B :=
  let m := { m with firstPts := if m.firstPts = avNoPtsValue then p.time else m.firstPts }
  ({ nals := AnnexBParser.splitView p.data
     pktData := p
     rtpTimestamp := m.toRTPTimestamp (p.time - m.firstPts)
     isKeyFrame := p.key
     duration := p.duration }, m)

/-- A packet that is not of the video stream: audio is queued. -/
def otherPacket (p : AVPacket) (m : MediaSource D B) : MediaSource D B :=
  if 0 ≤ m.audioIdx ∧ p.streamIndex = m.audioIdx then
    let m := { m with
      audioFirstPts := if m.audioFirstPts = avNoPtsValue then p.time else m.audioFirstPts }
    let ts := avRescaleQ (p.time - m.audioFirstPts) m.audioTimeBase m.audioInfo.sampleRate.toNat
    { m with audioQueue := m.audioQueue ++
        [{ data := p.data, rtpTimestamp := toUInt32 ts + m.audioRtpOffset }] }
  else m

variable [FFmpeg D B]

open FFmpeg

/-- The second half of a round of `readPacket`: a packet from the container. `none` when the
    loop goes on. -/
def readContainer (m : MediaSource D B) : Option (Option VideoPacket) × MediaSource D B :=
  match readFrame B m.fmtCtx with
  | (none, d) =>
      match m.bsfCtx with
      | none => (some none, { m with fmtCtx := d })
      | some b =>
          -- container EOF: the filter is flushed and drained in the next rounds
          (none, { m with
            fmtCtx := d, bsfCtx := some (bsfSend D none b).2, bsfAtEof := true })
  | (some p, d) =>
      let m := { m with fmtCtx := d }
      if p.streamIndex ≠ m.videoIdx then (none, m.otherPacket p)
      else
        match m.bsfCtx with
        | none =>
            let (vp, m) := m.processPacket p
            (some (some vp), m)
        | some b =>
            match bsfSend D (some p) b with
            | (true, b) => (none, { m with bsfCtx := some b })
            | (false, b) => (some none, { m with bsfCtx := some b })

/-- One round of the loop of `readPacket`. -/
def readRound (m : MediaSource D B) : Option (Option VideoPacket) × MediaSource D B :=
  match m.bsfCtx with
  | none => m.readContainer
  | some b =>
      match bsfReceive D b with
      | (.packet p, b) =>
          let (vp, m) := { m with bsfCtx := some b }.processPacket p
          (some (some vp), m)
      | (.eof, b) => (some none, { m with bsfCtx := some b })
      | (.error, b) => (some none, { m with bsfCtx := some b })
      | (.eagain, b) =>
          let m := { m with bsfCtx := some b }
          if m.bsfAtEof then (some none, m) else m.readContainer

/-- The loop of `readPacket`. A round that goes on has read a packet of the file or met its end,
    and after the end the next round returns. -/
def readLoop : Nat → MediaSource D B → Option VideoPacket × MediaSource D B
  | 0, m => (none, m)
  | fuel + 1, m =>
      match m.readRound with
      | (some r, m) => (r, m)
      | (none, m) => readLoop fuel m

def readPacket (m : MediaSource D B) : Option VideoPacket × MediaSource D B :=
  match m.prefetchVp with
  | some vp => (some vp, { m with prefetchVp := none })
  | none => m.readLoop (remaining B m.fmtCtx + 2)

def readAudioPacket (m : MediaSource D B) : Option AudioPacket × MediaSource D B :=
  if m.audioIdx < 0 then (none, m)
  else
    match m.audioQueue with
    | [] => (none, m)
    | ap :: rest => (some ap, { m with audioQueue := rest })

/-- `static_cast<uint32_t>(static_cast<double>(ticks) / 90000.0 * rate)`. -/
def audioTicks (ticks : UInt32) (rate : Int) : UInt32 :=
  UInt32.ofNat (ticks.toNat * rate.toNat / 90000)

def flushBsf (m : MediaSource D B) : MediaSource D B :=
  { m with bsfCtx := m.bsfCtx.map (bsfFlush D) }

def seek (offset : UInt32) (m : MediaSource D B) : MediaSource D B :=
  { m.flushBsf with
    fmtCtx := (seekFrame B 0 m.fmtCtx).2
    rtpOffset := offset
    firstPts := avNoPtsValue
    bsfAtEof := false
    audioFirstPts := avNoPtsValue
    audioRtpOffset :=
      if m.audioInfo.present && 0 < m.audioInfo.sampleRate then
        audioTicks offset m.audioInfo.sampleRate
      else 0
    audioQueue := [] }

/-- The probe of `seekToSeconds`: the time of the first video packet among the next ones. -/
def probe (videoIdx : Int) : Nat → Int → D → Int × D
  | 0, fallback, d => (fallback, d)
  | n + 1, fallback, d =>
      match readFrame B d with
      | (none, d) => (fallback, d)
      | (some p, d) => if p.streamIndex = videoIdx then (p.time, d) else probe videoIdx n fallback d

/-- Seconds to units of the stream's time base, by way of microseconds. -/
def targetTs (secs : Rat) (tb : TimeBase) : Int :=
  let us := (secs * 1000000).num.tdiv (secs * 1000000).den
  avRescale us tb.den (1000000 * tb.num)

def seekToSeconds (secs : Rat) (m : MediaSource D B) : MediaSource D B :=
  if secs < 0 then m.seek 0
  else
    let m := m.flushBsf
    match seekFrame B (targetTs secs m.timeBase) m.fmtCtx with
    | (false, d) =>
        { m.flushBsf with
          fmtCtx := (seekFrame B 0 d).2, bsfAtEof := false, rtpOffset := 0
          firstPts := avNoPtsValue }
    | (true, d) =>
        let (actualPts, d) := probe (B := B) m.videoIdx 256 (targetTs secs m.timeBase) d
        let actualSecs : Rat := actualPts * m.timeBase.num / m.timeBase.den
        let audioOffset := actualSecs * m.audioInfo.sampleRate
        { m.flushBsf with
          fmtCtx := (seekFrame B actualPts d).2
          bsfAtEof := false
          rtpOffset := toUInt32 (avRescaleQ actualPts m.timeBase 90000)
          firstPts := avNoPtsValue
          audioFirstPts := avNoPtsValue
          audioRtpOffset := toUInt32 (audioOffset.num.tdiv audioOffset.den)
          audioQueue := [] }

def adjustRTPOffset (delta : UInt32) (m : MediaSource D B) : MediaSource D B :=
  { m with
    rtpOffset := m.rtpOffset + delta
    audioRtpOffset :=
      if m.audioInfo.present && 0 < m.audioInfo.sampleRate then
        m.audioRtpOffset + audioTicks delta m.audioInfo.sampleRate
      else m.audioRtpOffset }

def peekNextVideoRTPTimestamp (m : MediaSource D B) : UInt32 × MediaSource D B :=
  match m.prefetchVp with
  | some vp => (vp.rtpTimestamp, m)
  | none =>
      match m.readPacket with
      | (none, m) => (0, m)
      | (some vp, m) => (vp.rtpTimestamp, { m with prefetchVp := some vp })

section

omit [FFmpeg D B]

/-- The packet that is returned was the first one of the queue. -/
theorem readAudioPacket_some {m m' : MediaSource D B} {ap : AudioPacket}
    (h : m.readAudioPacket = (some ap, m')) :
    m.audioQueue = ap :: m'.audioQueue ∧ m' = { m with audioQueue := m'.audioQueue } := by
  unfold readAudioPacket at h
  split at h
  · cases h
  · split at h
    · cases h
    · next hq =>
        cases h
        exact ⟨hq, rfl⟩

theorem readAudioPacket_none {m m' : MediaSource D B} (h : m.readAudioPacket = (none, m')) :
    m' = m := by
  unfold readAudioPacket at h
  repeat' split at h
  all_goals cases h
  all_goals rfl

theorem readAudioPacket_lt {m m' : MediaSource D B} {p : AudioPacket}
    (h : m.readAudioPacket = (some p, m')) : m'.audioQueue.length < m.audioQueue.length := by
  rw [(readAudioPacket_some h).1]
  exact Nat.lt_succ_self _

end

/-! ## What a round does -/

/-- The ways in which `readContainer` ends. -/
inductive ContainerRead (m : MediaSource D B) :
    Option (Option VideoPacket) → MediaSource D B → Prop where
  | eof {d : D} (hread : readFrame B m.fmtCtx = (none, d)) (hb : m.bsfCtx = none) :
      ContainerRead m (some none) { m with fmtCtx := d }
  | flush {d : D} {b : B} (hread : readFrame B m.fmtCtx = (none, d)) (hb : m.bsfCtx = some b) :
      ContainerRead m none
        { m with fmtCtx := d, bsfCtx := some (bsfSend D none b).2, bsfAtEof := true }
  | other {d : D} {p : AVPacket} (hread : readFrame B m.fmtCtx = (some p, d))
      (hp : p.streamIndex ≠ m.videoIdx) :
      ContainerRead m none ({ m with fmtCtx := d }.otherPacket p)
  | frame {d : D} {p : AVPacket} (hread : readFrame B m.fmtCtx = (some p, d))
      (hp : p.streamIndex = m.videoIdx) (hb : m.bsfCtx = none) :
      ContainerRead m (some (some ({ m with fmtCtx := d }.processPacket p).1))
        ({ m with fmtCtx := d }.processPacket p).2
  | sent {d : D} {p : AVPacket} {b b' : B} (hread : readFrame B m.fmtCtx = (some p, d))
      (hp : p.streamIndex = m.videoIdx) (hb : m.bsfCtx = some b)
      (hsend : bsfSend D (some p) b = (true, b')) :
      ContainerRead m none { m with fmtCtx := d, bsfCtx := some b' }
  | refused {d : D} {p : AVPacket} {b b' : B} (hread : readFrame B m.fmtCtx = (some p, d))
      (hp : p.streamIndex = m.videoIdx) (hb : m.bsfCtx = some b)
      (hsend : bsfSend D (some p) b = (false, b')) :
      ContainerRead m (some none) { m with fmtCtx := d, bsfCtx := some b' }

theorem readContainer_cases (m : MediaSource D B) :
    ContainerRead m m.readContainer.1 m.readContainer.2 := by
  obtain ⟨r, d, hread⟩ : ∃ r d, readFrame B m.fmtCtx = (r, d) := ⟨_, _, rfl⟩
  cases r with
  | none =>
      cases hb : m.bsfCtx with
      | none =>
          have heq : m.readContainer = (some none, { m with fmtCtx := d }) := by
            simp only [readContainer, hread, hb]
          rw [heq]
          exact .eof hread hb
      | some b =>
          have heq : m.readContainer = (none, { m with
              fmtCtx := d, bsfCtx := some (bsfSend D none b).2, bsfAtEof := true }) := by
            simp only [readContainer, hread, hb]
          rw [heq]
          exact .flush hread hb
  | some p =>
      by_cases hp : p.streamIndex = m.videoIdx
      · cases hb : m.bsfCtx with
        | none =>
            have heq : m.readContainer = (some (some ({ m with fmtCtx := d }.processPacket p).1),
                ({ m with fmtCtx := d }.processPacket p).2) := by
              simp only [readContainer, hread, hp, hb, ne_eq, not_true_eq_false, if_false]
            rw [heq]
            exact .frame hread hp hb
        | some b =>
            obtain ⟨ok, b', hsend⟩ : ∃ ok b', bsfSend D (some p) b = (ok, b') := ⟨_, _, rfl⟩
            have heq : m.readContainer =
                (if ok then none else some none, { m with fmtCtx := d, bsfCtx := some b' }) := by
              simp only [readContainer, hread, hp, hb, hsend, ne_eq, not_true_eq_false, if_false]
              cases ok <;> rfl
            rw [heq]
            cases ok with
            | true => exact .sent hread hp hb hsend
            | false => exact .refused hread hp hb hsend
      · have heq : m.readContainer = (none, { m with fmtCtx := d }.otherPacket p) := by
          simp only [readContainer, hread, ne_eq, hp, not_false_eq_true, if_true]
        rw [heq]
        exact .other hread hp

/-- The ways in which a round of `readPacket` ends. -/
inductive RoundRead (m : MediaSource D B) :
    Option (Option VideoPacket) → MediaSource D B → Prop where
  | direct {r : Option (Option VideoPacket)} {m' : MediaSource D B} (hb : m.bsfCtx = none)
      (h : ContainerRead m r m') : RoundRead m r m'
  | packet {b b' : B} {p : AVPacket} (hb : m.bsfCtx = some b)
      (hrec : bsfReceive D b = (.packet p, b')) :
      RoundRead m (some (some ({ m with bsfCtx := some b' }.processPacket p).1))
        ({ m with bsfCtx := some b' }.processPacket p).2
  | stop {b b' : B} {res : BsfResult} (hb : m.bsfCtx = some b) (hrec : bsfReceive D b = (res, b'))
      (hres : res = .eof ∨ res = .error ∨ (res = .eagain ∧ m.bsfAtEof = true)) :
      RoundRead m (some none) { m with bsfCtx := some b' }
  | feed {b b' : B} {r : Option (Option VideoPacket)} {m' : MediaSource D B}
      (hb : m.bsfCtx = some b) (hrec : bsfReceive D b = (.eagain, b')) (heof : m.bsfAtEof = false)
      (h : ContainerRead { m with bsfCtx := some b' } r m') : RoundRead m r m'

theorem readRound_cases (m : MediaSource D B) : RoundRead m m.readRound.1 m.readRound.2 := by
  cases hb : m.bsfCtx with
  | none =>
      have heq : m.readRound = m.readContainer := by simp only [readRound, hb]
      rw [heq]
      exact .direct hb (readContainer_cases m)
  | some b =>
      obtain ⟨res, b', hrec⟩ : ∃ res b', bsfReceive D b = (res, b') := ⟨_, _, rfl⟩
      cases res with
      | packet p =>
          have heq : m.readRound = (some (some ({ m with bsfCtx := some b' }.processPacket p).1),
              ({ m with bsfCtx := some b' }.processPacket p).2) := by
            simp only [readRound, hb, hrec]
          rw [heq]
          exact .packet hb hrec
      | eof =>
          have heq : m.readRound = (some none, { m with bsfCtx := some b' }) := by
            simp only [readRound, hb, hrec]
          rw [heq]
          exact .stop hb hrec (.inl rfl)
      | error =>
          have heq : m.readRound = (some none, { m with bsfCtx := some b' }) := by
            simp only [readRound, hb, hrec]
          rw [heq]
          exact .stop hb hrec (.inr (.inl rfl))
      | eagain =>
          by_cases heof : m.bsfAtEof = true
          · have heq : m.readRound = (some none, { m with bsfCtx := some b' }) := by
              simp only [readRound, hb, hrec]
              rw [if_pos heof]
            rw [heq]
            exact .stop hb hrec (.inr (.inr ⟨rfl, heof⟩))
          · have heq : m.readRound = { m with bsfCtx := some b' }.readContainer := by
              simp only [readRound, hb, hrec]
              rw [if_neg heof]
            rw [heq]
            exact .feed hb hrec (Bool.eq_false_iff.mpr heof) (readContainer_cases _)

/-! ## Reading -/

/-- What reading leaves alone: the parameters of the stream, the clock offset, the prefetched
    frame, and the first time once there is one. -/
structure Keeps (m m' : MediaSource D B) : Prop where
  streamInfo : m'.streamInfo = m.streamInfo
  timeBase : m'.timeBase = m.timeBase
  rtpOffset : m'.rtpOffset = m.rtpOffset
  prefetchVp : m'.prefetchVp = m.prefetchVp
  firstPts : m.firstPts ≠ avNoPtsValue → m'.firstPts = m.firstPts

/-- The timestamp of the frame is its 90 kHz distance from the first frame, behind the offset.
    A frame without any time says nothing. -/
def Stamped (m : MediaSource D B) (vp : VideoPacket) : Prop :=
  vp.pktData.time ≠ avNoPtsValue →
    m.firstPts ≠ avNoPtsValue ∧ vp.rtpTimestamp = m.toRTPTimestamp (vp.pktData.time - m.firstPts)

/-- The same but for one frame, which an earlier clock may have stamped. -/
def StampedBut (old : Option VideoPacket) (m : MediaSource D B) (vp : VideoPacket) : Prop :=
  m.Stamped vp ∨ old = some vp

section

omit [FFmpeg D B]

theorem Keeps.refl (m : MediaSource D B) : Keeps m m := ⟨rfl, rfl, rfl, rfl, fun _ => rfl⟩

theorem Keeps.trans {m n k : MediaSource D B} (h : Keeps m n) (h' : Keeps n k) : Keeps m k :=
  ⟨h'.streamInfo.trans h.streamInfo, h'.timeBase.trans h.timeBase, h'.rtpOffset.trans h.rtpOffset,
    h'.prefetchVp.trans h.prefetchVp, fun hm =>
      (h'.firstPts (by rw [h.firstPts hm]; exact hm)).trans (h.firstPts hm)⟩

theorem Stamped.keeps {m m' : MediaSource D B} {vp : VideoPacket} (h : m.Stamped vp)
    (hk : Keeps m m') : m'.Stamped vp := by
  intro htime
  obtain ⟨hfirst, hts⟩ := h htime
  rw [hk.firstPts hfirst]
  refine ⟨hfirst, hts.trans ?_⟩
  unfold toRTPTimestamp
  rw [hk.timeBase, hk.rtpOffset]

theorem StampedBut.keeps {old : Option VideoPacket} {m m' : MediaSource D B} {vp : VideoPacket}
    (h : m.StampedBut old vp) (hk : Keeps m m') : m'.StampedBut old vp :=
  h.imp_left fun hs => hs.keeps hk

theorem processPacket_keeps (p : AVPacket) (m : MediaSource D B) :
    Keeps m (m.processPacket p).2 := by
  refine ⟨rfl, rfl, rfl, rfl, fun hm => ?_⟩
  simp only [processPacket, if_neg hm]

theorem processPacket_stamped (p : AVPacket) (m : MediaSource D B) :
    (m.processPacket p).2.Stamped (m.processPacket p).1 := by
  intro htime
  refine ⟨?_, rfl⟩
  simp only [processPacket] at htime ⊢
  split
  · exact htime
  · assumption

theorem otherPacket_keeps (p : AVPacket) (m : MediaSource D B) : Keeps m (m.otherPacket p) := by
  unfold otherPacket
  split <;> exact ⟨rfl, rfl, rfl, rfl, fun _ => rfl⟩

theorem readAudioPacket_keeps (m : MediaSource D B) : Keeps m m.readAudioPacket.2 := by
  unfold readAudioPacket
  repeat' split
  all_goals exact ⟨rfl, rfl, rfl, rfl, fun _ => rfl⟩

/-- The frame is made by `processPacket`, after steps that keep the clock. -/
def Processed (m : MediaSource D B) (vp : VideoPacket) (m' : MediaSource D B) : Prop :=
  ∃ n p, Keeps m n ∧ n.processPacket p = (vp, m')

theorem Processed.after {m n m' : MediaSource D B} {vp : VideoPacket} (h : Processed n vp m')
    (hk : Keeps m n) : Processed m vp m' := by
  obtain ⟨k, p, hk', heq⟩ := h
  exact ⟨k, p, hk.trans hk', heq⟩

theorem Processed.stamped {m m' : MediaSource D B} {vp : VideoPacket} (h : Processed m vp m') :
    m'.Stamped vp := by
  obtain ⟨n, p, -, heq⟩ := h
  have := processPacket_stamped p n
  rwa [heq] at this

/-- The timestamp of a frame that was just made. -/
theorem Processed.rtpTimestamp {m m' : MediaSource D B} {vp : VideoPacket}
    (h : Processed m vp m') :
    vp.rtpTimestamp = m'.toRTPTimestamp (vp.pktData.time - m'.firstPts) := by
  obtain ⟨n, p, -, heq⟩ := h
  obtain ⟨rfl, rfl⟩ := Prod.mk.inj heq
  rfl

end

theorem ContainerRead.keeps {m m' : MediaSource D B} {r : Option (Option VideoPacket)}
    (h : ContainerRead m r m') : Keeps m m' ∧ ∀ vp, r = some (some vp) → Processed m vp m' := by
  have hd : ∀ d, Keeps m { m with fmtCtx := d } := fun _ => ⟨rfl, rfl, rfl, rfl, fun _ => rfl⟩
  cases h with
  | eof | flush | sent | refused =>
      refine ⟨⟨rfl, rfl, rfl, rfl, fun _ => rfl⟩, fun _ h => ?_⟩
      cases h
  | @other d p =>
      refine ⟨(hd d).trans (otherPacket_keeps p _), fun _ h => ?_⟩
      cases h
  | @frame d p =>
      refine ⟨(hd d).trans (processPacket_keeps p _), fun vp h => ?_⟩
      obtain rfl := Option.some.inj (Option.some.inj h)
      exact ⟨_, p, hd d, rfl⟩

theorem RoundRead.keeps {m m' : MediaSource D B} {r : Option (Option VideoPacket)}
    (h : RoundRead m r m') : Keeps m m' ∧ ∀ vp, r = some (some vp) → Processed m vp m' := by
  have hb : ∀ b, Keeps m { m with bsfCtx := some b } := fun _ =>
    ⟨rfl, rfl, rfl, rfl, fun _ => rfl⟩
  cases h with
  | direct _ h => exact h.keeps
  | @packet _ b p =>
      refine ⟨(hb b).trans (processPacket_keeps p _), fun vp h => ?_⟩
      obtain rfl := Option.some.inj (Option.some.inj h)
      exact ⟨_, p, hb b, rfl⟩
  | @stop _ b =>
      refine ⟨hb b, fun _ h => ?_⟩
      cases h
  | @feed _ b _ _ _ _ _ h =>
      obtain ⟨hk, hs⟩ := h.keeps
      exact ⟨(hb b).trans hk, fun vp h => (hs vp h).after (hb b)⟩

/-- The loop of `readPacket` keeps the clock, and the frame it returns is stamped by it. -/
theorem readLoop_spec (fuel : Nat) (m : MediaSource D B) :
    Keeps m (readLoop fuel m).2 ∧ ∀ vp, (readLoop fuel m).1 = some vp →
      Processed m vp (readLoop fuel m).2 := by
  induction fuel generalizing m with
  | zero => exact ⟨Keeps.refl m, fun _ h => nomatch h⟩
  | succ fuel ih =>
      obtain ⟨hk, hs⟩ := (readRound_cases m).keeps
      rw [readLoop]
      split
      · next r m' hround =>
          rw [hround] at hk hs
          exact ⟨hk, fun vp h => hs vp (congrArg some h)⟩
      · next m' hround =>
          rw [hround] at hk
          exact ⟨hk.trans (ih m').1, fun vp h => ((ih m').2 vp h).after hk⟩

theorem streamInfo_readPacket (m : MediaSource D B) : m.readPacket.2.streamInfo = m.streamInfo := by
  unfold readPacket
  split
  · rfl
  · exact (readLoop_spec _ m).1.streamInfo

theorem timeBase_readPacket {m m' : MediaSource D B} {r : Option VideoPacket}
    (h : m.readPacket = (r, m')) : m'.timeBase = m.timeBase := by
  obtain rfl : m.readPacket.2 = m' := congrArg Prod.snd h
  unfold readPacket
  split
  · rfl
  · exact (readLoop_spec _ m).1.timeBase

/-- A frame that is prefetched is stamped by the clock as it is now, or it is the old one. -/
def Fresh (old : Option VideoPacket) (m : MediaSource D B) : Prop :=
  ∀ vp, m.prefetchVp = some vp → m.StampedBut old vp

omit [FFmpeg D B] in
theorem Fresh.of_none (old : Option VideoPacket) {m : MediaSource D B} (h : m.prefetchVp = none) :
    m.Fresh old := by
  intro vp hvp
  rw [h] at hvp
  cases hvp

omit [FFmpeg D B] in
theorem Fresh.of_old {old : Option VideoPacket} {m : MediaSource D B} (h : m.prefetchVp = old) :
    m.Fresh old :=
  fun _ hvp => .inr (h.symm.trans hvp)

omit [FFmpeg D B] in
theorem Fresh.keeps {old : Option VideoPacket} {m m' : MediaSource D B} (h : m.Fresh old)
    (hk : Keeps m m') : m'.Fresh old := by
  intro vp hvp
  rw [hk.prefetchVp] at hvp
  exact (h vp hvp).keeps hk

/-- `readPacket` returns frames that are stamped by its clock, but for the old one, and keeps the
    stamps of others. -/
theorem readPacket_spec {old : Option VideoPacket} {m : MediaSource D B} (h : m.Fresh old) :
    m.readPacket.2.Fresh old ∧
      (∀ vp, m.readPacket.1 = some vp → m.readPacket.2.StampedBut old vp) ∧
      ∀ vp, m.StampedBut old vp → m.readPacket.2.StampedBut old vp := by
  unfold readPacket
  split
  · next vp hvp =>
      refine ⟨.of_none old rfl, fun vp' hvp' => ?_, fun _ hs => hs⟩
      obtain rfl := Option.some.inj hvp'
      exact h vp hvp
  · obtain ⟨hk, hs⟩ := readLoop_spec (FFmpeg.remaining B m.fmtCtx + 2) m
    exact ⟨h.keeps hk, fun vp hvp => .inl (hs vp hvp).stamped, fun _ hvp => hvp.keeps hk⟩

theorem readPacket_of_none {m : MediaSource D B} (h : m.prefetchVp = none) :
    m.readPacket = m.readLoop (FFmpeg.remaining B m.fmtCtx + 2) := by
  rw [readPacket]
  simp only [h]

/-- With nothing prefetched a frame that is read is made by the read. -/
theorem readPacket_some {m m' : MediaSource D B} {vp : VideoPacket}
    (h : m.readPacket = (some vp, m')) (hnone : m.prefetchVp = none) :
    Keeps m m' ∧ Processed m vp m' := by
  rw [readPacket_of_none hnone] at h
  obtain ⟨hk, hs⟩ := readLoop_spec (FFmpeg.remaining B m.fmtCtx + 2) m
  rw [h] at hk hs
  exact ⟨hk, hs vp rfl⟩

/-- Whatever was prefetched is gone when a frame is read. -/
theorem prefetchVp_readPacket {m m' : MediaSource D B} {vp : VideoPacket}
    (h : m.readPacket = (some vp, m')) : m'.prefetchVp = none := by
  cases hvp : m.prefetchVp with
  | none => exact (readPacket_some h hvp).1.prefetchVp.trans hvp
  | some vp' =>
      rw [readPacket, hvp] at h
      obtain ⟨-, rfl⟩ := Prod.mk.inj h
      rfl

/-- A source at its end has nothing prefetched. -/
theorem readPacket_none {m m' : MediaSource D B} (h : m.readPacket = (none, m')) :
    m'.prefetchVp = none := by
  unfold readPacket at h
  split at h
  · cases h
  · next hnone =>
      have hk := (readLoop_spec (FFmpeg.remaining B m.fmtCtx + 2) m).1.prefetchVp
      rw [h, hnone] at hk
      exact hk

theorem peekNextVideoRTPTimestamp_fresh {old : Option VideoPacket} {m : MediaSource D B}
    (h : m.Fresh old) : m.peekNextVideoRTPTimestamp.2.Fresh old := by
  obtain ⟨hfresh, hstamped, -⟩ := readPacket_spec h
  unfold peekNextVideoRTPTimestamp
  split
  · exact h
  · split
    · next m' hread =>
        rw [hread] at hfresh
        exact hfresh
    · next vp m' hread =>
        rw [hread] at hstamped
        intro vp' hvp'
        obtain rfl := Option.some.inj hvp'
        exact hstamped vp rfl

theorem seek_prefetchVp (offset : UInt32) (m : MediaSource D B) :
    (m.seek offset).prefetchVp = m.prefetchVp := rfl

theorem seekToSeconds_prefetchVp (secs : Rat) (m : MediaSource D B) :
    (m.seekToSeconds secs).prefetchVp = m.prefetchVp := by
  unfold seekToSeconds
  dsimp only
  repeat' split
  all_goals rfl

instance : IMediaSource (MediaSource D B) where
  streamInfo := streamInfo
  audioInfo := audioInfo
  readPacket := readPacket
  readAudioPacket := readAudioPacket
  seek := seek
  seekToSeconds := seekToSeconds
  rtpOffset := rtpOffset
  audioRTPOffset := audioRtpOffset
  adjustRTPOffset := adjustRTPOffset
  peekNextVideoRTPTimestamp := peekNextVideoRTPTimestamp
  audioQueued := fun m => m.audioQueue.length
  audioQueued_lt := fun _ _ _ h => readAudioPacket_lt h
  streamInfo_readPacket := streamInfo_readPacket

end MediaSource

/-! ## A file as a list of packets -/

/-- A demuxer over the packets of a file: those already read, the last one first, and those to
    come. -/
structure PacketList where
  before : List AVPacket
  after : List AVPacket
  deriving DecidableEq

namespace PacketList

/-- The place of the last key packet at or before a time, or the start. -/
def keyBefore (ts : Int) (ps : List AVPacket) : Nat :=
  (((List.range ps.length).zip ps).filter fun q => q.2.key && q.2.time ≤ ts).getLast?.elim 0 (·.1)

instance : FFmpeg PacketList Unit where
  readFrame d :=
    match d.after with
    | [] => (none, d)
    | p :: rest => (some p, ⟨p :: d.before, rest⟩)
  seekFrame ts d :=
    let ps := d.before.reverse ++ d.after
    let k := keyBefore ts ps
    (true, ⟨(ps.take k).reverse, ps.drop k⟩)
  bsfReceive b := (.eof, b)
  bsfSend _ b := (true, b)
  bsfFlush b := b
  remaining d := d.after.length
  remaining_lt d p d' h := by
    split at h
    · cases h
    · next q rest hq =>
        cases h
        rw [hq]
        exact Nat.lt_succ_self _

/-- A source over such a file without a bitstream filter and without audio, video on stream 0
    with a 90 kHz time base. -/
def source (info : H264StreamInfo) (ps : List AVPacket) : MediaSource PacketList Unit :=
  { fmtCtx := ⟨[], ps⟩, bsfCtx := none, videoIdx := 0
    timeBase := ⟨1, 90000, by decide, by decide⟩, streamInfo := info
    audioInfo := { present := false, sampleRate := 44100, channels := 2, asc := [] }
    audioIdx := -1, audioTimeBase := ⟨1, 44100, by decide, by decide⟩
    audioFirstPts := avNoPtsValue, audioRtpOffset := 0, audioQueue := [], rtpOffset := 0
    firstPts := avNoPtsValue, bsfAtEof := false, prefetchVp := none }

end PacketList

namespace MediaSource

/-- Two key frames, one second apart. -/
def twoKeys : List AVPacket :=
  [{ streamIndex := 0, pts := 0, dts := 0, key := true, duration := 90000
     data := [0, 0, 0, 1, 0x65, 0x88] },
   { streamIndex := 0, pts := 90000, dts := 90000, key := true, duration := 90000
     data := [0, 0, 0, 1, 0x65, 0x99] }]

/-- A source over these frames. -/
def keysSource : MediaSource PacketList Unit :=
  PacketList.source { sps := [], pps := [], width := 0, height := 0, durationSecs := 2 } twoKeys

end MediaSource

end RtspServer
