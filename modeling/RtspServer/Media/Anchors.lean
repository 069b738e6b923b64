/-
  The anchors of the two clocks of a source, `first_pts_` and `audio_first_pts_`, and the 64-bit
  differences `pts - first_pts_` that `readPacket` takes. `AV_NOPTS_VALUE` is the smallest 64-bit
  number and stands for a missing time in the same place as a time: a packet without any time
  that meets an anchor above zero makes the difference overflow.

  `StampsDefined` runs one clock over the packets it stamps; every intermediate value is in it.
  `anchors_iff`: the exact condition for whole runs of calls.
-/
import RtspServer.Media.Landing

namespace RtspServer

variable {D B : Type}

/-- A value of `int64_t`. -/
def InInt64 (x : Int) : Prop := -9223372036854775808 ≤ x ∧ x < 9223372036854775808

instance (x : Int) : Decidable (InInt64 x) :=
  inferInstanceAs (Decidable (_ ≤ _ ∧ _ < _))

/-- A missing time, or one of absolute value below 2^62. -/
def TimeInRange (t : Int) : Prop :=
  t = avNoPtsValue ∨ (-4611686018427387904 < t ∧ t < 4611686018427387904)

instance (t : Int) : Decidable (TimeInRange t) := inferInstanceAs (Decidable (_ ∨ _))

theorem avNoPtsValue_eq : avNoPtsValue = -9223372036854775808 := by decide

/-- Both times of the packet are in range. -/
def AVPacket.InRange (p : AVPacket) : Prop := TimeInRange p.pts ∧ TimeInRange p.dts

instance (p : AVPacket) : Decidable p.InRange := inferInstanceAs (Decidable (_ ∧ _))

theorem AVPacket.InRange.time {p : AVPacket} (h : p.InRange) : TimeInRange p.time := by
  unfold AVPacket.time
  split
  · exact h.1
  · exact h.2

/-! ## One clock -/

/-- The anchor when the packet is stamped: an anchor that is not set is set to its time. -/
def clockAnchor (first : Int) (p : AVPacket) : Int :=
  if first = avNoPtsValue then p.time else first

/-- `pts - first_pts_`. -/
def sinceAnchor (first : Int) (p : AVPacket) : Int := p.time - clockAnchor first p

/-- The time of the first packet that has one. -/
def firstTime (ps : List AVPacket) : Option Int :=
  (ps.find? fun p => p.time ≠ avNoPtsValue).map AVPacket.time

/-- The anchor is not set, or it is the time of the first of these packets that has one. -/
def FirstOf (seen : List AVPacket) (first : Int) : Prop :=
  first = avNoPtsValue ∨ firstTime seen = some first

/-- The clock stamps packets, having stamped those in `seen` since it was reset: the anchor is
    what it should be all the time, and no difference overflows. -/
def StampsDefined : List AVPacket → Int → List AVPacket → Prop
  | seen, first, [] => FirstOf seen first
  | seen, first, p :: ps =>
      FirstOf seen first ∧ InInt64 (sinceAnchor first p) ∧
        StampsDefined (seen ++ [p]) (clockAnchor first p) ps

/-- No packet without a time is stamped while the anchor is above zero. -/
def NoneTimeless : Int → List AVPacket → Prop
  | _, [] => True
  | first, p :: ps => (p.time = avNoPtsValue → first ≤ 0) ∧ NoneTimeless (clockAnchor first p) ps

instance decidableNoneTimeless : (first : Int) → (ps : List AVPacket) →
    Decidable (NoneTimeless first ps)
  | _, [] => .isTrue trivial
  | first, p :: ps =>
      have := decidableNoneTimeless (clockAnchor first p) ps
      inferInstanceAs (Decidable (_ ∧ _))

theorem StampsDefined.firstOf {seen ps : List AVPacket} {first : Int}
    (h : StampsDefined seen first ps) : FirstOf seen first := by
  cases ps with
  | nil => exact h
  | cons p ps => exact h.1

theorem firstTime_snoc (seen : List AVPacket) (p : AVPacket) :
    (firstTime (seen ++ [p])).getD avNoPtsValue =
      clockAnchor ((firstTime seen).getD avNoPtsValue) p := by
  unfold firstTime clockAnchor
  rw [List.find?_append]
  cases hfind : seen.find? (fun p => p.time ≠ avNoPtsValue) with
  | some q =>
      have hq : q.time ≠ avNoPtsValue := by simpa using List.find?_some hfind
      exact (if_neg hq).symm
  | none =>
      by_cases hp : p.time = avNoPtsValue
      · simp [hp]
      · simp [hp]

/-- The anchor that has stamped these packets. -/
theorem foldl_anchor (seen ps : List AVPacket) :
    ps.foldl clockAnchor ((firstTime seen).getD avNoPtsValue) =
      (firstTime (seen ++ ps)).getD avNoPtsValue := by
  induction ps generalizing seen with
  | nil => rw [List.append_nil]; rfl
  | cons p ps ih =>
      rw [List.foldl_cons, ← firstTime_snoc, ih, List.append_assoc, List.singleton_append]

theorem firstOf_firstTime (seen : List AVPacket) :
    FirstOf seen ((firstTime seen).getD avNoPtsValue) := by
  cases h : firstTime seen with
  | none => exact .inl rfl
  | some t => exact .inr h

theorem timeInRange_anchor {first : Int} {p : AVPacket} (hfirst : TimeInRange first)
    (hp : p.InRange) : TimeInRange (clockAnchor first p) := by
  unfold clockAnchor
  split
  · exact hp.time
  · exact hfirst

theorem timeInRange_foldl {first : Int} {ps : List AVPacket} (hfirst : TimeInRange first)
    (hps : ∀ p ∈ ps, p.InRange) : TimeInRange (ps.foldl clockAnchor first) := by
  induction ps generalizing first with
  | nil => exact hfirst
  | cons p ps ih =>
      obtain ⟨hp, hps⟩ := List.forall_mem_cons.mp hps
      exact ih (timeInRange_anchor hfirst hp) hps

/-- When the difference overflows. -/
theorem inInt64_sinceAnchor_iff {first : Int} {p : AVPacket} (hfirst : TimeInRange first)
    (hp : p.InRange) :
    InInt64 (sinceAnchor first p) ↔ (p.time = avNoPtsValue → first ≤ 0) := by
  have htime := hp.time
  unfold sinceAnchor clockAnchor InInt64
  unfold TimeInRange at hfirst htime
  rw [avNoPtsValue_eq] at *
  split <;> omega

theorem stampsDefined_iff {seen ps : List AVPacket}
    (hseen : TimeInRange ((firstTime seen).getD avNoPtsValue)) (hps : ∀ p ∈ ps, p.InRange) :
    StampsDefined seen ((firstTime seen).getD avNoPtsValue) ps ↔
      NoneTimeless ((firstTime seen).getD avNoPtsValue) ps := by
  induction ps generalizing seen with
  | nil => exact iff_of_true (firstOf_firstTime seen) trivial
  | cons p ps ih =>
      obtain ⟨hp, hps⟩ := List.forall_mem_cons.mp hps
      have hnext := timeInRange_anchor hseen hp
      rw [← firstTime_snoc] at hnext
      rw [StampsDefined, NoneTimeless, inInt64_sinceAnchor_iff hseen hp, ← firstTime_snoc,
        ih hnext hps]
      exact and_iff_right (firstOf_firstTime seen)

/-! ## The clocks of a source -/

/-- A call of a source. -/
inductive SourceCall where
  | readPacket
  | peekNextVideoRTPTimestamp
  | readAudioPacket
  | seek (call : MediaSource.SeekCall)
  | adjustRTPOffset (delta : UInt32)

namespace MediaSource

/-- The difference that the timestamp of a frame is made of. -/
theorem rtpTimestamp_processPacket (p : AVPacket) (m : MediaSource D B) :
    (m.processPacket p).1.rtpTimestamp =
      toUInt32 (avRescaleQ (sinceAnchor m.firstPts p) m.timeBase 90000) + m.rtpOffset := rfl

/-- The difference that the timestamp of an audio packet is made of. -/
theorem ticks_eq (a : AudioSide) (p : AVPacket) :
    a.ticks p = toUInt32 (avRescaleQ (sinceAnchor a.firstPts p) a.timeBase a.sampleRate.toNat) :=
  rfl

/-- The first time of the audio is the anchor of its clock. -/
theorem AudioSide.firstPts_foldl (a : AudioSide) (ps : List AVPacket) :
    (ps.foldl AudioSide.take a).firstPts = (ps.filter a.isAudio).foldl clockAnchor a.firstPts := by
  induction ps generalizing a with
  | nil => rfl
  | cons p ps ih =>
      have hsame : (a.take p).isAudio = a.isAudio := by
        funext q
        exact AudioSide.isAudio_take a p q
      rw [List.foldl_cons, ih, hsame]
      by_cases hp : a.isAudio p
      · rw [List.filter_cons_of_pos hp, List.foldl_cons, AudioSide.take, if_pos hp]
        rfl
      · rw [List.filter_cons_of_neg hp, AudioSide.take, if_neg hp]

variable [FFmpeg D B]

open FFmpeg

/-- The frame that a read makes, rather than takes from the slot. -/
def readStamps (m : MediaSource D B) : List AVPacket :=
  match m.prefetchVp with
  | some _ => []
  | none => (m.readPacket.1.map (·.pktData)).toList

theorem firstPts_readPacket (m : MediaSource D B) :
    m.readPacket.2.firstPts = m.readStamps.foldl clockAnchor m.firstPts := by
  unfold readStamps
  cases hvp : m.prefetchVp with
  | some vp => simp only [readPacket, hvp, List.foldl_nil]
  | none =>
      have hclocks := readPacket_clocks hvp
      obtain ⟨r, m', hread⟩ : ∃ r m', m.readPacket = (r, m') := ⟨_, _, rfl⟩
      rw [hread] at hclocks ⊢
      cases r with
      | none => exact (hclocks.clocks fun vp h => by cases h).firstPts
      | some vp =>
          obtain ⟨n, p, hn, heq⟩ := hclocks.frame vp rfl
          obtain ⟨rfl, rfl⟩ := Prod.mk.inj heq
          simp only [hn.firstPts, Option.map_some, Option.toList_some,
            List.foldl_cons, List.foldl_nil, clockAnchor]

theorem firstPts_peek (m : MediaSource D B) :
    m.peekNextVideoRTPTimestamp.2.firstPts = m.readStamps.foldl clockAnchor m.firstPts := by
  have hread := firstPts_readPacket m
  unfold peekNextVideoRTPTimestamp
  split
  · next vp hvp => simp only [readStamps, hvp, List.foldl_nil]
  · split
    · next m' heq => rwa [heq] at hread
    · next vp m' heq => rwa [heq] at hread

/-- The audio packets that a read stamps. -/
def readAudioStamps (m : MediaSource D B) : List AVPacket :=
  m.packetReads.filter m.audioSide.isAudio

theorem audioFirstPts_readPacket (m : MediaSource D B) :
    m.readPacket.2.audioFirstPts = m.readAudioStamps.foldl clockAnchor m.audioFirstPts :=
  (congrArg AudioSide.firstPts (audioSide_readPacket m)).trans
    (AudioSide.firstPts_foldl m.audioSide m.packetReads)

theorem audioFirstPts_peek (m : MediaSource D B) :
    m.peekNextVideoRTPTimestamp.2.audioFirstPts =
      m.readAudioStamps.foldl clockAnchor m.audioFirstPts :=
  (congrArg AudioSide.firstPts (audioSide_peek m)).trans
    (AudioSide.firstPts_foldl m.audioSide m.packetReads)

/-- On the path that rewinds the anchor of the audio stays. -/
theorem audioFirstPts_rewinds {m : MediaSource D B} {call : SeekCall} (h : Rewinds m call) :
    (call.run m).audioFirstPts = m.audioFirstPts :=
  congrArg AudioSide.firstPts (run_rewinds h).1

end MediaSource

namespace SourceCall

variable [FFmpeg D B]

def run (m : MediaSource D B) : SourceCall → MediaSource D B
  | .readPacket => m.readPacket.2
  | .peekNextVideoRTPTimestamp => m.peekNextVideoRTPTimestamp.2
  | .readAudioPacket => m.readAudioPacket.2
  | .seek call => call.run m
  | .adjustRTPOffset delta => m.adjustRTPOffset delta

/-- The packets for which the call takes `pts - first_pts_`. -/
def videoStamps (m : MediaSource D B) : SourceCall → List AVPacket
  | .readPacket | .peekNextVideoRTPTimestamp => m.readStamps
  | _ => []

/-- The packets for which the call takes `pts - audio_first_pts_`. -/
def audioStamps (m : MediaSource D B) : SourceCall → List AVPacket
  | .readPacket | .peekNextVideoRTPTimestamp => m.readAudioStamps
  | _ => []

/-- Those stamped since the last seek. -/
def since (seen stamps : List AVPacket) : SourceCall → List AVPacket
  | .seek _ => []
  | _ => seen ++ stamps

/-- The call rewinds the source because `av_seek_frame` failed. -/
def rewinds (m : MediaSource D B) : SourceCall → Prop
  | .seek call => MediaSource.Rewinds m call
  | _ => False

end SourceCall

namespace MediaSource

variable [FFmpeg D B]

/-- The packets that a run of calls stamps. -/
def stampedPackets : List SourceCall → MediaSource D B → List AVPacket
  | [], _ => []
  | call :: calls, m =>
      call.videoStamps m ++ call.audioStamps m ++ stampedPackets calls (call.run m)

/-- In a run of calls no difference overflows, and both anchors are unset or the time of the
    first packet since the last seek that had one: `vs` and `as` are those before the run. -/
def AnchorsDefined : List SourceCall → MediaSource D B → List AVPacket → List AVPacket → Prop
  | [], m, vs, as => FirstOf vs m.firstPts ∧ FirstOf as m.audioFirstPts
  | call :: calls, m, vs, as =>
      StampsDefined vs m.firstPts (call.videoStamps m) ∧
        StampsDefined as m.audioFirstPts (call.audioStamps m) ∧
          AnchorsDefined calls (call.run m) (call.since vs (call.videoStamps m))
            (call.since as (call.audioStamps m))

/-- The condition on each step of the run. -/
def StepsMeet : List SourceCall → MediaSource D B → Prop
  | [], _ => True
  | call :: calls, m =>
      NoneTimeless m.firstPts (call.videoStamps m) ∧
        NoneTimeless m.audioFirstPts (call.audioStamps m) ∧
          (call.rewinds m → m.audioFirstPts = avNoPtsValue) ∧ StepsMeet calls (call.run m)

/-- The anchors are those of the packets that were stamped since the last seek. -/
structure Anchored (m : MediaSource D B) (vs as : List AVPacket) : Prop where
  firstPts : m.firstPts = (firstTime vs).getD avNoPtsValue
  audioFirstPts : m.audioFirstPts = (firstTime as).getD avNoPtsValue
  video_range : TimeInRange m.firstPts
  audio_range : TimeInRange m.audioFirstPts

omit [FFmpeg D B] in
theorem anchored_after {m m' : MediaSource D B} {vs as ps qs : List AVPacket}
    (h : Anchored m vs as) (hps : ∀ p ∈ ps, p.InRange) (hqs : ∀ p ∈ qs, p.InRange)
    (hvideo : m'.firstPts = ps.foldl clockAnchor m.firstPts)
    (haudio : m'.audioFirstPts = qs.foldl clockAnchor m.audioFirstPts) :
    Anchored m' (vs ++ ps) (as ++ qs) := by
  refine ⟨?_, ?_, ?_, ?_⟩
  · rw [hvideo, h.firstPts, foldl_anchor]
  · rw [haudio, h.audioFirstPts, foldl_anchor]
  · rw [hvideo]
    exact timeInRange_foldl h.video_range hps
  · rw [haudio]
    exact timeInRange_foldl h.audio_range hqs

/-- Behind a call that is no seek. -/
theorem Anchored.run {m : MediaSource D B} {vs as : List AVPacket} (h : Anchored m vs as)
    {call : SourceCall} (hcall : ∀ c, call ≠ .seek c)
    (hvideo : ∀ p ∈ call.videoStamps m, p.InRange) (haudio : ∀ p ∈ call.audioStamps m, p.InRange) :
    Anchored (call.run m) (call.since vs (call.videoStamps m))
      (call.since as (call.audioStamps m)) := by
  cases call with
  | readPacket =>
      exact anchored_after h hvideo haudio (firstPts_readPacket m) (audioFirstPts_readPacket m)
  | peekNextVideoRTPTimestamp =>
      exact anchored_after h hvideo haudio (firstPts_peek m) (audioFirstPts_peek m)
  | readAudioPacket =>
      refine anchored_after h hvideo haudio ?_ ?_
      · change m.readAudioPacket.2.firstPts = m.firstPts
        unfold readAudioPacket
        repeat' split
        all_goals rfl
      · change m.readAudioPacket.2.audioFirstPts = m.audioFirstPts
        unfold readAudioPacket
        repeat' split
        all_goals rfl
  | seek c => exact absurd rfl (hcall c)
  | adjustRTPOffset delta => exact anchored_after h hvideo haudio rfl rfl

omit [FFmpeg D B] in
theorem anchored_unset {m : MediaSource D B} (hvideo : m.firstPts = avNoPtsValue)
    (haudio : m.audioFirstPts = avNoPtsValue) : Anchored m [] [] :=
  ⟨hvideo, haudio, .inl hvideo, .inl haudio⟩

theorem AnchorsDefined.firstOf {calls : List SourceCall} {m : MediaSource D B}
    {vs as : List AVPacket} (h : AnchorsDefined calls m vs as) :
    FirstOf vs m.firstPts ∧ FirstOf as m.audioFirstPts := by
  cases calls with
  | nil => exact h
  | cons call calls => exact ⟨h.1.firstOf, h.2.1.firstOf⟩

theorem anchorsDefined_iff {calls : List SourceCall} {m : MediaSource D B}
    {vs as : List AVPacket} (h : Anchored m vs as)
    (hrange : ∀ p ∈ stampedPackets calls m, p.InRange) :
    AnchorsDefined calls m vs as ↔ StepsMeet calls m := by
  induction calls generalizing m vs as with
  | nil =>
      refine iff_of_true ⟨?_, ?_⟩ trivial
      · rw [h.firstPts]
        exact firstOf_firstTime vs
      · rw [h.audioFirstPts]
        exact firstOf_firstTime as
  | cons call calls ih =>
      rw [stampedPackets, List.forall_mem_append, List.forall_mem_append] at hrange
      obtain ⟨⟨hvideo, haudio⟩, hrest⟩ := hrange
      have hv : StampsDefined vs m.firstPts (call.videoStamps m) ↔
          NoneTimeless m.firstPts (call.videoStamps m) := by
        have hr := h.video_range
        rw [h.firstPts] at hr ⊢
        exact stampsDefined_iff hr hvideo
      have ha : StampsDefined as m.audioFirstPts (call.audioStamps m) ↔
          NoneTimeless m.audioFirstPts (call.audioStamps m) := by
        have hr := h.audio_range
        rw [h.audioFirstPts] at hr ⊢
        exact stampsDefined_iff hr haudio
      rw [AnchorsDefined, StepsMeet, hv, ha]
      refine and_congr_right fun _ => and_congr_right fun _ => ?_
      by_cases hseek : ∃ c, call = .seek c
      · obtain ⟨c, rfl⟩ := hseek
        have hunset : (SourceCall.run m (.seek c)).firstPts = avNoPtsValue :=
          (sought_run m c).firstPts
        change AnchorsDefined calls (SourceCall.run m (.seek c)) [] [] ↔ (Rewinds m c → _) ∧ _
        by_cases hrewinds : Rewinds m c
        · -- the audio keeps its anchor, which is right only if it is unset
          have hkept := audioFirstPts_rewinds hrewinds
          by_cases hset : m.audioFirstPts = avNoPtsValue
          · rw [ih (anchored_unset hunset (hkept.trans hset)) hrest]
            exact (and_iff_right fun _ => hset).symm
          · refine iff_of_false (fun hdefined => ?_) fun hmeet => hset (hmeet.1 hrewinds)
            rcases hdefined.firstOf.2 with hnone | hsome
            · exact hset (hkept.symm.trans hnone)
            · cases hsome
        · rw [ih (anchored_unset hunset (audio_run hrewinds).1) hrest]
          exact (and_iff_right fun hr => absurd hr hrewinds).symm
      · have hcall : ∀ c, call ≠ .seek c := fun c hc => hseek ⟨c, hc⟩
        have hrewinds : ¬ call.rewinds m := by
          cases call with
          | seek c => exact absurd rfl (hcall c)
          | _ => exact id
        rw [ih (h.run hcall hvideo haudio) hrest]
        exact (and_iff_right fun hr => absurd hr hrewinds).symm

/-- **Timestamp arithmetic**, for every file, filter and sequence of calls from a source that was
    just opened, all times being missing or of absolute value below 2^62: no difference overflows
    and the anchors are what they should be all the time, if and only if no packet without any
    time is stamped while its anchor is above zero, and the source is never rewound, because
    `av_seek_frame` failed, while the anchor of the audio is set. -/
theorem anchors_iff {m : MediaSource D B} (hvideo : m.firstPts = avNoPtsValue)
    (haudio : m.audioFirstPts = avNoPtsValue) (calls : List SourceCall)
    (hrange : ∀ p ∈ stampedPackets calls m, p.InRange) :
    AnchorsDefined calls m [] [] ↔ StepsMeet calls m :=
  anchorsDefined_iff (anchored_unset hvideo haudio) hrange

theorem anchors_iff_keys :
    AnchorsDefined [.readPacket, .readPacket] keysSource [] [] :=
  (anchors_iff rfl rfl [.readPacket, .readPacket] (by decide +kernel)).mpr
    ⟨by decide +kernel, by decide +kernel, False.elim, by decide +kernel, by decide +kernel,
      False.elim, trivial⟩

/-- A packet without any time behind one at 1. -/
def timelessPackets : List AVPacket :=
  [{ streamIndex := 0, pts := 1, dts := 1, key := true, duration := 3000
     data := [0, 0, 0, 1, 0x65] },
   { streamIndex := 0, pts := avNoPtsValue, dts := avNoPtsValue, key := false, duration := 3000
     data := [0, 0, 0, 1, 0x41] }]

def timelessSource : MediaSource PacketList Unit :=
  PacketList.source keysSource.streamInfo timelessPackets

/-- The second difference is below the smallest 64-bit number. -/
theorem timelessSource_overflows :
    (∀ p ∈ timelessPackets, p.InRange) ∧
      ¬ AnchorsDefined [.readPacket, .readPacket] timelessSource [] [] := by
  refine ⟨by decide, fun h => ?_⟩
  have hfirst : (SourceCall.run timelessSource .readPacket).firstPts = 1 := by decide +kernel
  have hstamps : SourceCall.videoStamps (SourceCall.run timelessSource .readPacket) .readPacket =
      timelessPackets.tail := by
    decide +kernel
  obtain ⟨-, -, hsecond, -⟩ := h
  rw [hfirst, hstamps] at hsecond
  obtain ⟨-, hrange, -⟩ := hsecond
  exact absurd hrange (by decide)

end MediaSource

end RtspServer
