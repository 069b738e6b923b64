/-
  Where a seek takes the clocks of a source. `seekToSeconds` lands on the time of a packet. The
  offset of the 90 kHz clock is that time rounded to the nearest tick, the offset of the audio
  clock is that time cut to whole samples, and `adjustRTPOffset` adds a shift to both, cut to
  whole samples once more.

  `ReadsFrame`: the first frame that is read after a seek is at the offset of the 90 kHz clock.
  `audioTicks_le_iff`: for which landings that offset, taken to the audio clock, is not ahead of
  the audio offset.
-/
import Mathlib.Algebra.Order.Floor.Ring
import Mathlib.Data.Rat.Floor
import RtspServer.Media.SeekFlush

namespace RtspServer

variable {D B : Type}

/-! ## The first read after a seek -/

namespace MediaSource

/-- The clocks of the two sources are the same. -/
structure SameClocks (m m' : MediaSource D B) : Prop where
  firstPts : m'.firstPts = m.firstPts
  rtpOffset : m'.rtpOffset = m.rtpOffset
  timeBase : m'.timeBase = m.timeBase
  audioInfo : m'.audioInfo = m.audioInfo
  audioRtpOffset : m'.audioRtpOffset = m.audioRtpOffset

theorem SameClocks.refl (m : MediaSource D B) : SameClocks m m := ⟨rfl, rfl, rfl, rfl, rfl⟩

theorem SameClocks.trans {m n k : MediaSource D B} (h : SameClocks m n) (h' : SameClocks n k) :
    SameClocks m k :=
  ⟨h'.firstPts.trans h.firstPts, h'.rtpOffset.trans h.rtpOffset, h'.timeBase.trans h.timeBase,
    h'.audioInfo.trans h.audioInfo, h'.audioRtpOffset.trans h.audioRtpOffset⟩

theorem otherPacket_clocks (p : AVPacket) (m : MediaSource D B) :
    SameClocks m (m.otherPacket p) := by
  unfold otherPacket
  split <;> exact ⟨rfl, rfl, rfl, rfl, rfl⟩

/-- The frame is the first one that is made from here. -/
def ReadsFrame (m : MediaSource D B) (vp : VideoPacket) (m' : MediaSource D B) : Prop :=
  ∃ n p, SameClocks m n ∧ n.processPacket p = (vp, m')

/-- A part of a read: the clocks stay until it gives a frame. -/
structure KeepsClocks (m : MediaSource D B) (r : Option (Option VideoPacket))
    (m' : MediaSource D B) : Prop where
  clocks : (∀ vp, r ≠ some (some vp)) → SameClocks m m'
  frame : ∀ vp, r = some (some vp) → ReadsFrame m vp m'

theorem KeepsClocks.of_silent {m m' : MediaSource D B} {r : Option (Option VideoPacket)}
    (hr : r = none ∨ r = some none) (h : SameClocks m m') : KeepsClocks m r m' := by
  refine ⟨fun _ => h, fun vp hvp => ?_⟩
  rcases hr with hr | hr <;> rw [hr] at hvp <;> cases hvp

theorem KeepsClocks.of_frame {m n : MediaSource D B} (p : AVPacket) (h : SameClocks m n) :
    KeepsClocks m (some (some (n.processPacket p).1)) (n.processPacket p).2 := by
  refine ⟨fun hno => absurd rfl (hno _), fun vp hvp => ⟨n, p, h, ?_⟩⟩
  obtain rfl := Option.some.inj (Option.some.inj hvp)
  rfl

theorem KeepsClocks.after {m n m' : MediaSource D B} {r : Option (Option VideoPacket)}
    (h : KeepsClocks n r m') (hs : SameClocks m n) : KeepsClocks m r m' := by
  refine ⟨fun hno => hs.trans (h.clocks hno), fun vp hvp => ?_⟩
  obtain ⟨k, p, hk, heq⟩ := h.frame vp hvp
  exact ⟨k, p, hs.trans hk, heq⟩

theorem ReadsFrame.rtpTimestamp {m m' : MediaSource D B} {vp : VideoPacket}
    (h : ReadsFrame m vp m') (hfirst : m.firstPts = avNoPtsValue) :
    vp.rtpTimestamp = m.rtpOffset := by
  obtain ⟨n, p, hn, heq⟩ := h
  have hstamp := processPacket_first (p := p) (hn.firstPts.trans hfirst)
  rw [heq] at hstamp
  exact hstamp.trans hn.rtpOffset

theorem ReadsFrame.audio {m m' : MediaSource D B} {vp : VideoPacket} (h : ReadsFrame m vp m') :
    m'.audioInfo = m.audioInfo ∧ m'.audioRtpOffset = m.audioRtpOffset := by
  obtain ⟨n, p, hn, heq⟩ := h
  obtain rfl := (Prod.mk.inj heq).2
  exact ⟨hn.audioInfo, hn.audioRtpOffset⟩

/-- The first frame since the clock was reset: the clock starts at its time. -/
theorem ReadsFrame.first {m m' : MediaSource D B} {vp : VideoPacket} (h : ReadsFrame m vp m')
    (hfirst : m.firstPts = avNoPtsValue) :
    m'.firstPts = vp.pktData.time ∧ m'.rtpOffset = m.rtpOffset ∧ m'.timeBase = m.timeBase := by
  obtain ⟨n, p, hn, heq⟩ := h
  obtain ⟨rfl, rfl⟩ := Prod.mk.inj heq
  exact ⟨if_pos (hn.firstPts.trans hfirst), hn.rtpOffset, hn.timeBase⟩

variable [FFmpeg D B]

open FFmpeg

theorem ContainerRead.clocks {m m' : MediaSource D B} {r : Option (Option VideoPacket)}
    (h : ContainerRead m r m') : KeepsClocks m r m' := by
  have hd : ∀ d, SameClocks m { m with fmtCtx := d } := fun _ => ⟨rfl, rfl, rfl, rfl, rfl⟩
  cases h with
  | eof | refused => exact .of_silent (.inr rfl) ⟨rfl, rfl, rfl, rfl, rfl⟩
  | flush | sent => exact .of_silent (.inl rfl) ⟨rfl, rfl, rfl, rfl, rfl⟩
  | @other d p => exact .of_silent (.inl rfl) ((hd d).trans (otherPacket_clocks p _))
  | @frame d p => exact .of_frame p (hd d)

theorem RoundRead.clocks {m m' : MediaSource D B} {r : Option (Option VideoPacket)}
    (h : RoundRead m r m') : KeepsClocks m r m' := by
  have hb : ∀ b, SameClocks m { m with bsfCtx := some b } := fun _ => ⟨rfl, rfl, rfl, rfl, rfl⟩
  cases h with
  | direct _ h => exact h.clocks
  | @packet _ b p => exact .of_frame p (hb b)
  | @stop _ b => exact .of_silent (.inr rfl) (hb b)
  | @feed _ b _ _ _ _ _ h => exact h.clocks.after (hb b)

/-- The loop of `readPacket`. -/
theorem readLoop_clocks (fuel : Nat) (m : MediaSource D B) :
    KeepsClocks m (some (readLoop fuel m).1) (readLoop fuel m).2 := by
  induction fuel generalizing m with
  | zero => exact .of_silent (.inr rfl) (.refl m)
  | succ fuel ih =>
      have hround := (readRound_cases m).clocks
      obtain ⟨r, m', heq⟩ : ∃ r m', m.readRound = (r, m') := ⟨_, _, rfl⟩
      rw [heq] at hround
      cases r with
      | some r =>
          simp only [readLoop, heq]
          exact hround
      | none =>
          simp only [readLoop, heq]
          exact (ih m').after (hround.clocks fun _ h => by cases h)

theorem readPacket_clocks {m : MediaSource D B} (h : m.prefetchVp = none) :
    KeepsClocks m (some m.readPacket.1) m.readPacket.2 := by
  rw [readPacket_of_none h]
  exact readLoop_clocks _ m

/-- The source as it was left by the seek, or with the next frame prefetched. -/
def AsSought (m n : MediaSource D B) : Prop :=
  n = m ∨ n = m.peekNextVideoRTPTimestamp.2

/-- A frame that was prefetched is read as it would have been without that. -/
theorem AsSought.reads {m n k : MediaSource D B} {vp : VideoPacket} (h : AsSought m n)
    (hnone : m.prefetchVp = none) (hread : m.readPacket = (some vp, k)) :
    n.readPacket = (some vp, k) := by
  rcases h with rfl | rfl
  · exact hread
  · have hk := prefetchVp_readPacket hread
    have hsame : { k with prefetchVp := none } = k := by rw [← hk]
    unfold peekNextVideoRTPTimestamp
    simp only [hnone, hread]
    exact congrArg (some vp, ·) hsame

/-- The first frame that is read after a seek is at the offset of the clock. -/
theorem AsSought.read {m n n' : MediaSource D B} {vp : VideoPacket} (h : AsSought m n)
    (hnone : m.prefetchVp = none) (hfirst : m.firstPts = avNoPtsValue)
    (hread : n.readPacket = (some vp, n')) :
    vp.rtpTimestamp = m.rtpOffset ∧ n'.audioInfo = m.audioInfo ∧
      n'.audioRtpOffset = m.audioRtpOffset := by
  obtain ⟨r, k, hpeek⟩ : ∃ r k, m.readPacket = (r, k) := ⟨_, _, rfl⟩
  have hclocks := readPacket_clocks hnone
  rw [hpeek] at hclocks
  cases r with
  | some vp' =>
      obtain ⟨hvp, rfl⟩ := Prod.mk.inj ((h.reads hnone hpeek).symm.trans hread)
      have hframe := hclocks.frame vp (congrArg some hvp)
      exact ⟨hframe.rtpTimestamp hfirst, hframe.audio⟩
  | none =>
      -- the source is at its end, and is read again
      have hk : SameClocks m k := hclocks.clocks fun _ h => nomatch h
      rcases h with rfl | rfl
      · rw [hpeek] at hread
        cases hread
      · unfold peekNextVideoRTPTimestamp at hread
        simp only [hnone, hpeek] at hread
        have hclocks' := readPacket_clocks (readPacket_none hpeek)
        rw [hread] at hclocks'
        have hframe := hclocks'.frame vp rfl
        exact ⟨(hframe.rtpTimestamp (hk.firstPts.trans hfirst)).trans hk.rtpOffset,
          hframe.audio.1.trans hk.audioInfo, hframe.audio.2.trans hk.audioRtpOffset⟩

end MediaSource

/-! ## Landings -/

/-- The seconds of a time. -/
def TimeBase.secs (tb : TimeBase) (pts : Int) : Rat := pts * tb.num / tb.den

theorem avRescale_error (a : Int) (b : Nat) {c : Nat} (hc : 0 < c) :
    |(avRescale a b c : Rat) - a * b / c| ≤ 1 / 2 := by
  have hnat : ∀ n : Nat, |(((n * b + c / 2) / c : Nat) : Rat) - n * b / c| ≤ 1 / 2 := by
    intro n
    have hc' : (0 : Rat) < c := Nat.cast_pos.mpr hc
    have hle := Nat.div_mul_le_self (n * b + c / 2) c
    have hlt := Nat.lt_div_mul_add hc (a := n * b + c / 2)
    generalize (n * b + c / 2) / c = q at hle hlt ⊢
    have h1 : 2 * (q * c) ≤ 2 * (n * b) + c := by omega
    have h2 : 2 * (n * b) ≤ 2 * (q * c) + c := by omega
    have h1 : (2 : Rat) * (q * c) ≤ 2 * (n * b) + c := by exact_mod_cast h1
    have h2 : (2 : Rat) * (n * b) ≤ 2 * (q * c) + c := by exact_mod_cast h2
    rw [abs_le]
    constructor
    · rw [neg_le_sub_iff_le_add, div_le_iff₀ hc']
      linarith
    · rw [sub_le_iff_le_add, ← sub_le_iff_le_add', le_div_iff₀ hc']
      linarith
  unfold avRescale
  split
  · next ha =>
      obtain ⟨n, rfl⟩ := Int.eq_ofNat_of_zero_le ha
      exact hnat n
  · next ha =>
      obtain ⟨n, hn⟩ := Int.eq_ofNat_of_zero_le (show 0 ≤ -a by omega)
      obtain rfl : a = -n := by omega
      rw [neg_neg, Int.toNat_natCast, Int.cast_neg, Int.cast_neg, neg_mul, neg_div,
        ← neg_sub_neg, neg_neg, neg_neg, abs_sub_comm]
      exact hnat n

/-- Ticks of 90 kHz are rounded to the nearest. -/
theorem avRescaleQ_error (tb : TimeBase) (a : Int) :
    |(avRescaleQ a tb 90000 : Rat) - 90000 * tb.secs a| ≤ 1 / 2 := by
  have h := avRescale_error a (tb.num * 90000) tb.den_pos
  have heq : (a : Rat) * ((tb.num * 90000 : Nat) : Rat) / tb.den = 90000 * tb.secs a := by
    unfold TimeBase.secs
    push_cast
    ring
  rwa [heq] at h

/-- A cast to an integer, toward zero. -/
def trunc (x : Rat) : Int := x.num.tdiv x.den

/-- What such a cast cuts off. -/
def cut (x : Rat) : Rat := x - trunc x

namespace MediaSource

variable [FFmpeg D B]

open FFmpeg

/-- The time at which `seekToSeconds` lands, `none` where the source starts again. -/
def landing (secs : Rat) (m : MediaSource D B) : Option Int :=
  if secs < 0 then none
  else
    match seekFrame B (targetTs secs m.timeBase) m.fmtCtx with
    | (false, _) => none
    | (true, d) => some (probe (B := B) m.videoIdx 256 (targetTs secs m.timeBase) d).1

omit [FFmpeg D B] in
theorem audioTicks_zero (rate : Int) : audioTicks 0 rate = 0 := by
  unfold audioTicks
  rw [UInt32.toNat_zero, Nat.zero_mul, Nat.zero_div]
  rfl

/-- What `seekToSeconds` leaves alone, and the clocks of a landing. -/
structure Lands (secs : Rat) (m m' : MediaSource D B) : Prop where
  prefetchVp : m'.prefetchVp = m.prefetchVp
  firstPts : m'.firstPts = avNoPtsValue
  timeBase : m'.timeBase = m.timeBase
  audioInfo : m'.audioInfo = m.audioInfo
  landed : ∀ pts, m.landing secs = some pts →
    m'.rtpOffset = toUInt32 (avRescaleQ pts m.timeBase 90000) ∧
      m'.audioRtpOffset = toUInt32 (trunc (m.timeBase.secs pts * m.audioInfo.sampleRate))
  started : m.landing secs = none → m'.rtpOffset = 0 ∧
    m'.audioRtpOffset = if secs < 0 then 0 else m.audioRtpOffset

theorem lands_seekToSeconds (secs : Rat) (m : MediaSource D B) :
    Lands secs m (m.seekToSeconds secs) := by
  have hzero : (if m.audioInfo.present && 0 < m.audioInfo.sampleRate then
      audioTicks 0 m.audioInfo.sampleRate else 0) = 0 := by
    rw [audioTicks_zero, ite_self]
  unfold seekToSeconds
  by_cases hsecs : secs < 0
  · have hlanding : m.landing secs = none := if_pos hsecs
    rw [if_pos hsecs]
    refine ⟨rfl, rfl, rfl, rfl, fun pts h => ?_, fun _ => ⟨rfl, ?_⟩⟩
    · rw [hlanding] at h
      cases h
    · rw [if_pos hsecs]
      exact hzero
  · rw [if_neg hsecs]
    obtain ⟨ok, d, hseek⟩ : ∃ ok d, seekFrame B (targetTs secs m.timeBase) m.fmtCtx = (ok, d) :=
      ⟨_, _, rfl⟩
    have hflush : seekFrame B (targetTs secs m.flushBsf.timeBase) m.flushBsf.fmtCtx = (ok, d) :=
      hseek
    dsimp only
    rw [hflush]
    cases ok with
    | false =>
        have hlanding : m.landing secs = none := by
          rw [landing, if_neg hsecs, hseek]
        refine ⟨rfl, rfl, rfl, rfl, fun pts h => ?_, fun _ => ⟨rfl, ?_⟩⟩
        · rw [hlanding] at h
          cases h
        · rw [if_neg hsecs]
          rfl
    | true =>
        have hlanding : m.landing secs =
            some (probe (B := B) m.videoIdx 256 (targetTs secs m.timeBase) d).1 := by
          rw [landing, if_neg hsecs, hseek]
        refine ⟨rfl, rfl, rfl, rfl, fun pts h => ?_, fun h => ?_⟩
        · rw [hlanding] at h
          obtain rfl := Option.some.inj h
          exact ⟨rfl, rfl⟩
        · rw [hlanding] at h
          cases h

/-- A key frame with NAL units and a time, at this position of the 90 kHz clock. -/
def KeyAt (tb : TimeBase) (ticks : Int) : Option VideoPacket → Prop
  | none => False
  | some vp => vp.isKeyFrame = true ∧ vp.nals ≠ [] ∧ vp.pktData.time ≠ avNoPtsValue ∧
      avRescaleQ vp.pktData.time tb 90000 = ticks

omit [FFmpeg D B] in
instance decidableKeyAt (tb : TimeBase) (ticks : Int) : ∀ r, Decidable (KeyAt tb ticks r)
  | none => isFalse id
  | some _ => inferInstanceAs (Decidable (_ ∧ _))

/-- The clock is set to the position of the next frame, which is a key frame. Nothing is
    prefetched. -/
def StartsInPlace (m : MediaSource D B) : Prop :=
  m.prefetchVp = none ∧ KeyAt m.timeBase m.rtpOffset.toNat m.readPacket.1

instance (m : MediaSource D B) : Decidable m.StartsInPlace := inferInstanceAs (Decidable (_ ∧ _))

/-- A seek to `secs` lands on the next frame, a key frame in the range of the 90 kHz clock. Nothing
    is prefetched. -/
def LandsOnKey (secs : Rat) (m : MediaSource D B) : Prop :=
  let ticks := avRescaleQ ((m.landing secs).getD 0) m.timeBase 90000
  m.prefetchVp = none ∧ (0 ≤ ticks ∧ ticks < 4294967296) ∧
    KeyAt m.timeBase ticks (m.seekToSeconds secs).readPacket.1

instance (secs : Rat) (m : MediaSource D B) : Decidable (m.LandsOnKey secs) :=
  inferInstanceAs (Decidable (_ ∧ _))

/-- Such a seek sets the clock to the position of the frame. -/
theorem LandsOnKey.startsInPlace {secs : Rat} {m : MediaSource D B} (h : m.LandsOnKey secs) :
    (m.seekToSeconds secs).StartsInPlace := by
  obtain ⟨hnone, ⟨hle, hlt⟩, hkey⟩ := h
  have hlands := lands_seekToSeconds secs m
  have hoffset : ((m.seekToSeconds secs).rtpOffset.toNat : Int) =
      avRescaleQ ((m.landing secs).getD 0) m.timeBase 90000 := by
    cases hlanding : m.landing secs with
    | some pts =>
        rw [hlanding] at hle hlt
        rw [(hlands.landed pts hlanding).1, toUInt32_toNat]
        exact Int.emod_eq_of_lt hle hlt
    | none =>
        rw [(hlands.started hlanding).1]
        exact (avRescaleQ_zero m.timeBase 90000).symm
  refine ⟨hlands.prefetchVp.trans hnone, ?_⟩
  rw [hlands.timeBase, hoffset]
  exact hkey

/-- The clock starts at the position of its first frame, up to the rounding. -/
def InPlace (m : MediaSource D B) : Prop :=
  m.firstPts ≠ avNoPtsValue ∧
    |(m.rtpOffset.toNat : Rat) - 90000 * m.timeBase.secs m.firstPts| ≤ 1 / 2

/-- The first frame of a clock that starts in place. -/
theorem StartsInPlace.read {m n n' : MediaSource D B} {vp : VideoPacket} (h : m.StartsInPlace)
    (hfirst : m.firstPts = avNoPtsValue) (hn : AsSought m n)
    (hread : n.readPacket = (some vp, n')) :
    vp.isKeyFrame = true ∧ vp.nals ≠ [] ∧ vp.rtpTimestamp = n'.rtpOffset ∧
      vp.pktData.time = n'.firstPts ∧ n'.InPlace := by
  obtain ⟨hnone, hkey⟩ := h
  obtain ⟨r, k, hnext⟩ : ∃ r k, m.readPacket = (r, k) := ⟨_, _, rfl⟩
  rw [hnext] at hkey
  cases r with
  | none => exact hkey.elim
  | some vp' =>
      obtain ⟨hvp, rfl⟩ := Prod.mk.inj ((hn.reads hnone hnext).symm.trans hread)
      obtain rfl := Option.some.inj hvp
      have hclocks := readPacket_clocks hnone
      rw [hnext] at hclocks
      have hframe := hclocks.frame vp' rfl
      obtain ⟨hstart, hoffset, htb⟩ := hframe.first hfirst
      obtain ⟨hkey, hnals, htime, hticks⟩ := hkey
      have hcast : (m.rtpOffset.toNat : Rat) = avRescaleQ vp'.pktData.time m.timeBase 90000 := by
        rw [hticks]
        exact (Int.cast_natCast _).symm
      refine ⟨hkey, hnals, (hframe.rtpTimestamp hfirst).trans hoffset.symm, hstart.symm, ?_, ?_⟩
      · rw [hstart]
        exact htime
      · rw [hoffset, htb, hstart, hcast]
        exact avRescaleQ_error m.timeBase _

end MediaSource

/-! ## The audio clock of a landing -/

theorem trunc_of_nonneg {x : Rat} (h : 0 ≤ x) : trunc x = ⌊x⌋ := by
  rw [trunc, Rat.floor_def', Int.tdiv_eq_ediv_of_nonneg (Rat.num_nonneg.mpr h)]

/-- Ticks of 90 kHz as whole samples. -/
theorem trunc_ticks (n : Nat) (rate : Int) (hrate : 0 ≤ rate) :
    trunc ((n : Rat) * rate / 90000) = (n * rate.toNat / 90000 : Nat) := by
  obtain ⟨r, rfl⟩ := Int.eq_ofNat_of_zero_le hrate
  have hcast : (n : Rat) * ((r : Int) : Rat) / 90000 =
      ((n * r : Nat) : Rat) / ((90000 : Nat) : Rat) := by
    push_cast
    ring
  have hnonneg : (0 : Rat) ≤ ((n * r : Nat) : Rat) / ((90000 : Nat) : Rat) :=
    div_nonneg (Nat.cast_nonneg _) (Nat.cast_nonneg _)
  rw [hcast, trunc_of_nonneg hnonneg, Rat.floor_natCast_div_natCast]
  rfl

/-- How far an anchor at the landing is ahead of the audio offset, in samples: what the casts of the
    two parts cut off, and what the rounding to 90 kHz adds. -/
def lead (tb : TimeBase) (rate pts : Int) (delta : UInt32) : Rat :=
  cut (tb.secs pts * rate) + cut (delta.toNat * rate / 90000) +
    (avRescaleQ pts tb 90000 - tb.secs pts * 90000) * rate / 90000

/-- How much more often the anchor has wrapped than the audio offset: its 90 kHz clock, and the
    count of samples. -/
def turns (tb : TimeBase) (rate pts : Int) (delta : UInt32) : Rat :=
  let ticks := avRescaleQ pts tb 90000 + delta.toNat
  let start := trunc (tb.secs pts * rate) + trunc (delta.toNat * rate / 90000)
  (ticks / 4294967296 : Int) * rate / 90000 +
    (ticks % 4294967296 * rate / 90000 / 4294967296 - start / 4294967296 : Int)

theorem le_of_turns (q start : Int) :
    q % 4294967296 ≤ start % 4294967296 ↔
      q < start + 1 + 4294967296 * (q / 4294967296 - start / 4294967296) := by
  omega

theorem ediv_lt_iff_cast (a z : Int) : a / 90000 < z ↔ (a : Rat) / 90000 < z := by
  rw [Int.ediv_lt_iff_lt_mul (by decide), div_lt_iff₀ (by norm_num)]
  exact_mod_cast Iff.rfl

namespace MediaSource

theorem toNat_audioTicks (ticks : UInt32) (rate : Int) (hrate : 0 ≤ rate) :
    ((audioTicks ticks rate).toNat : Int) = ticks.toNat * rate / 90000 % 4294967296 := by
  unfold audioTicks
  rw [UInt32.toNat_ofNat']
  push_cast
  rw [Int.toNat_of_nonneg hrate]

/-- An anchor at the landing is not ahead of the audio offset as long as cutting and rounding come
    to less than a sample. -/
theorem audioTicks_le_iff (tb : TimeBase) {rate : Int} (hrate : 0 ≤ rate) (pts : Int)
    (delta : UInt32) :
    audioTicks (toUInt32 (avRescaleQ pts tb 90000) + delta) rate ≤
        toUInt32 (trunc (tb.secs pts * rate)) + audioTicks delta rate ↔
      lead tb rate pts delta < 1 + 4294967296 * turns tb rate pts delta := by
  let ticks := avRescaleQ pts tb 90000 + delta.toNat
  let start := trunc (tb.secs pts * rate) + trunc (delta.toNat * rate / 90000)
  let q := ticks % 4294967296 * rate / 90000
  have hcut : trunc ((delta.toNat : Rat) * rate / 90000) = delta.toNat * rate / 90000 := by
    rw [trunc_ticks _ _ hrate]
    push_cast
    rw [Int.toNat_of_nonneg hrate]
  have hanchor : ((audioTicks (toUInt32 (avRescaleQ pts tb 90000) + delta) rate).toNat : Int) =
      q % 4294967296 := by
    have hclock : ((toUInt32 (avRescaleQ pts tb 90000) + delta).toNat : Int) =
        ticks % 4294967296 := by
      have := toUInt32_toNat (avRescaleQ pts tb 90000)
      rw [UInt32.toNat_add]
      omega
    rw [toNat_audioTicks _ _ hrate, hclock]
  have hoffset : ((toUInt32 (trunc (tb.secs pts * rate)) + audioTicks delta rate).toNat : Int) =
      start % 4294967296 := by
    have := toUInt32_toNat (trunc (tb.secs pts * rate))
    have := toNat_audioTicks delta rate hrate
    rw [UInt32.toNat_add]
    omega
  have hlead : ((ticks % 4294967296 * rate : Int) : Rat) / 90000 -
      (start + 4294967296 * (q / 4294967296 - start / 4294967296 : Int) : Rat) =
      lead tb rate pts delta - 4294967296 * turns tb rate pts delta := by
    have hmod : (ticks % 4294967296 : Int) = ticks - 4294967296 * (ticks / 4294967296) := by
      omega
    have hturns : turns tb rate pts delta = (ticks / 4294967296 : Int) * rate / 90000 +
        (q / 4294967296 - start / 4294967296 : Int) := rfl
    have hstart : (start : Rat) =
        trunc (tb.secs pts * rate) + trunc (delta.toNat * rate / 90000 : Rat) := Int.cast_add _ _
    have hticks : (ticks : Rat) = avRescaleQ pts tb 90000 + delta.toNat := Int.cast_add _ _
    rw [hmod, hturns, hstart, lead, cut, cut, Int.cast_mul, Int.cast_sub, Int.cast_mul, hticks]
    push_cast
    ring
  rw [UInt32.le_iff_toNat_le, ← Int.ofNat_le, hanchor, hoffset, le_of_turns, ediv_lt_iff_cast]
  push_cast at hlead ⊢
  constructor
  · intro h
    linarith
  · intro h
    linarith
/-! ## Repositioning -/

/-- The calls by which a session repositions its source. -/
inductive Reposition where
  | seek (offset : UInt32)
  | seekToSeconds (secs : Rat)
  /-- `seekToSeconds` and then `adjustRTPOffset` -/
  | adjusted (secs : Rat) (delta : UInt32)

variable [FFmpeg D B]

def Reposition.apply (m : MediaSource D B) : Reposition → MediaSource D B
  | .seek offset => m.seek offset
  | .seekToSeconds secs => m.seekToSeconds secs
  | .adjusted secs delta => (m.seekToSeconds secs).adjustRTPOffset delta

/-- The audio offset of a seek to `secs` and a shift by `delta` is not behind an anchor there. A
    seek that fails keeps the audio offset of before. -/
def Fits (secs : Rat) (delta : UInt32) (m : MediaSource D B) : Prop :=
  match m.landing secs with
  | some pts =>
      lead m.timeBase m.audioInfo.sampleRate pts delta <
        1 + 4294967296 * turns m.timeBase m.audioInfo.sampleRate pts delta
  | none =>
      secs < 0 ∨ m.audioRtpOffset.toNat +
        delta.toNat * m.audioInfo.sampleRate / 90000 % 4294967296 < 4294967296

/-- When the audio offset after the call is not behind an anchor there. -/
def Reposition.Fits (m : MediaSource D B) : Reposition → Prop
  | .seek _ => True
  | .seekToSeconds secs => m.Fits secs 0
  | .adjusted secs delta => m.Fits secs delta

omit [FFmpeg D B] in
theorem adjustRTPOffset_zero (m : MediaSource D B) : m.adjustRTPOffset 0 = m := by
  unfold adjustRTPOffset
  rw [audioTicks_zero, UInt32.add_zero, UInt32.add_zero, ite_self]

/-- A call leaves nothing of the old clock. -/
theorem Reposition.clocks (m : MediaSource D B) (op : Reposition) :
    (op.apply m).prefetchVp = m.prefetchVp ∧ (op.apply m).firstPts = avNoPtsValue ∧
      (op.apply m).audioInfo = m.audioInfo := by
  cases op with
  | seek offset => exact ⟨rfl, rfl, rfl⟩
  | seekToSeconds secs =>
      have h := lands_seekToSeconds secs m
      exact ⟨h.prefetchVp, h.firstPts, h.audioInfo⟩
  | adjusted secs delta =>
      have h := lands_seekToSeconds secs m
      exact ⟨h.prefetchVp, h.firstPts, h.audioInfo⟩

theorem fits_iff {m : MediaSource D B} (hpresent : m.audioInfo.present = true)
    (hrate : 0 < m.audioInfo.sampleRate) (secs : Rat) (delta : UInt32) :
    audioTicks ((m.seekToSeconds secs).adjustRTPOffset delta).rtpOffset m.audioInfo.sampleRate ≤
      ((m.seekToSeconds secs).adjustRTPOffset delta).audioRtpOffset ↔ m.Fits secs delta := by
  have h := lands_seekToSeconds secs m
  have haudio : ((m.seekToSeconds secs).adjustRTPOffset delta).audioRtpOffset =
      (m.seekToSeconds secs).audioRtpOffset + audioTicks delta m.audioInfo.sampleRate := by
    unfold adjustRTPOffset
    rw [h.audioInfo, hpresent]
    simp only [hrate, decide_true, Bool.and_self, if_true]
  have hvideo : ((m.seekToSeconds secs).adjustRTPOffset delta).rtpOffset =
      (m.seekToSeconds secs).rtpOffset + delta := rfl
  rw [haudio, hvideo]
  unfold Fits
  cases hlanding : m.landing secs with
  | some pts =>
      obtain ⟨hoffset, haudioOffset⟩ := h.landed pts hlanding
      rw [hoffset, haudioOffset]
      exact audioTicks_le_iff m.timeBase hrate.le pts delta
  | none =>
      obtain ⟨hoffset, haudioOffset⟩ := h.started hlanding
      have hdelta := toNat_audioTicks delta m.audioInfo.sampleRate hrate.le
      have hlt := (audioTicks delta m.audioInfo.sampleRate).toNat_lt
      have hold := m.audioRtpOffset.toNat_lt
      rw [hoffset, haudioOffset, UInt32.zero_add, UInt32.le_iff_toNat_le, UInt32.toNat_add]
      by_cases hsecs : secs < 0
      · simp only [hsecs, if_true, true_or, iff_true, UInt32.toNat_zero]
        omega
      · simp only [hsecs, if_false, false_or]
        rw [← hdelta]
        omega

/-- The offset of the 90 kHz clock after the call, taken to the audio clock, is not ahead of the
    audio offset. -/
theorem Reposition.fits_iff {m : MediaSource D B} (hpresent : m.audioInfo.present = true)
    (hrate : 0 < m.audioInfo.sampleRate) (op : Reposition) :
    audioTicks (op.apply m).rtpOffset m.audioInfo.sampleRate ≤ (op.apply m).audioRtpOffset ↔
      op.Fits m := by
  cases op with
  | seek offset =>
      have haudio : (m.seek offset).audioRtpOffset = audioTicks offset m.audioInfo.sampleRate := by
        unfold MediaSource.seek
        rw [hpresent]
        simp only [hrate, decide_true, Bool.and_self, if_true]
      change audioTicks offset m.audioInfo.sampleRate ≤ (m.seek offset).audioRtpOffset ↔ True
      rw [haudio]
      simp only [UInt32.le_refl]
  | seekToSeconds secs =>
      have h := MediaSource.fits_iff hpresent hrate secs 0
      rw [adjustRTPOffset_zero] at h
      exact h
  | adjusted secs delta => exact MediaSource.fits_iff hpresent hrate secs delta

end MediaSource

end RtspServer
