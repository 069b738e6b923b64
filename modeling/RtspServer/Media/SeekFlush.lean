/-
  What a seek leaves of the packets read before it. `seek` and `seekToSeconds` flush the
  bitstream filter, reset the clocks and empty the audio queue, but neither empties the slot of
  `peekNextVideoRTPTimestamp`, and `seekToSeconds` leaves the audio as it is when `av_seek_frame`
  fails and the source is rewound.

  `Asked` are the packets that a supply gives to the rounds of asking it, whatever the clocks of
  the source are: the audio packets behind a rewind are those of the rewound supply.
  `Flushed` says that nothing read before the call comes out after it, and that the next video
  packet is delivered, also through a filter, if that is a queue which a flush empties and opens.
  `seek_flushes_iff`: the exact condition for it.
-/
import RtspServer.Media.Peeking

namespace RtspServer

variable {D B : Type} [FFmpeg D B]

open FFmpeg

/-! ## What a supply comes to -/

/-- The packet that a round of asking takes from the file, if any. -/
def Supply.takes (s : Supply D B) : List AVPacket :=
  match s.filter with
  | none => (readFrame B s.file).1.toList
  | some b =>
      match (bsfReceive D b).1 with
      | .eagain => if s.flushed then [] else (readFrame B s.file).1.toList
      | _ => []

/-- Rounds of asking take these packets from the file. -/
inductive Supply.Asked (videoIdx : Int) (s : Supply D B) : List AVPacket → Supply D B → Prop where
  | refl : Asked videoIdx s [] s
  | tail {ps : List AVPacket} {s' : Supply D B} (h : Asked videoIdx s ps s') :
      Asked videoIdx s (ps ++ s'.takes) (s'.ask videoIdx).2

theorem Supply.Asked.trans {videoIdx : Int} {s s' s'' : Supply D B} {ps ps' : List AVPacket}
    (h : Asked videoIdx s ps s') (h' : Asked videoIdx s' ps' s'') :
    Asked videoIdx s (ps ++ ps') s'' := by
  induction h' with
  | refl => simpa using h
  | tail _ ih =>
      rw [← List.append_assoc]
      exact ih.tail

namespace MediaSource

theorem asked_readRound (m : MediaSource D B) :
    Supply.Asked m.videoIdx m.supply m.roundReads m.readRound.2.supply := by
  have hround : Supply.Asked m.videoIdx m.supply ([] ++ m.roundReads) _ := .tail .refl
  rw [List.nil_append, (ask_supply m).1] at hround
  exact hround

theorem asked_readLoop (fuel : Nat) (m : MediaSource D B) :
    Supply.Asked m.videoIdx m.supply (loopReads fuel m) (readLoop fuel m).2.supply ∧
      (readLoop fuel m).2.videoIdx = m.videoIdx := by
  induction fuel generalizing m with
  | zero => exact ⟨.refl, rfl⟩
  | succ fuel ih =>
      have hround := asked_readRound m
      have hidx := (ask_supply m).2
      obtain ⟨r, m', heq⟩ : ∃ r m', m.readRound = (r, m') := ⟨_, _, rfl⟩
      rw [heq] at hround hidx
      cases r with
      | some r =>
          simp only [readLoop, loopReads, heq, List.append_nil]
          exact ⟨hround, hidx⟩
      | none =>
          obtain ⟨hloop, hidx'⟩ := ih m'
          rw [hidx] at hloop
          simp only [readLoop, loopReads, heq]
          exact ⟨hround.trans hloop, hidx'.trans hidx⟩

theorem asked_readPacket (m : MediaSource D B) :
    Supply.Asked m.videoIdx m.supply m.packetReads m.readPacket.2.supply ∧
      m.readPacket.2.videoIdx = m.videoIdx := by
  cases hvp : m.prefetchVp with
  | none =>
      rw [packetReads_none hvp, readPacket_of_none hvp]
      exact asked_readLoop _ m
  | some vp =>
      simp only [readPacket, packetReads, hvp, and_true]
      exact .refl

theorem asked_peek (m : MediaSource D B) :
    Supply.Asked m.videoIdx m.supply m.packetReads m.peekNextVideoRTPTimestamp.2.supply ∧
      m.peekNextVideoRTPTimestamp.2.videoIdx = m.videoIdx := by
  have hread := asked_readPacket m
  unfold peekNextVideoRTPTimestamp
  split
  · next vp hvp =>
      simp only [packetReads, hvp, and_true]
      exact .refl
  · split
    · next m' heq =>
        rw [heq] at hread
        exact hread
    · next vp m' heq =>
        rw [heq] at hread
        exact hread

/-- What reads of a source take from the demuxer, its supply gives to rounds of asking. -/
theorem Pulls.asked {m m' : MediaSource D B} {ps : List AVPacket} {aps : List AudioPacket}
    (h : Pulls m ps aps m') :
    Supply.Asked m.videoIdx m.supply ps m'.supply ∧ m'.videoIdx = m.videoIdx := by
  induction h with
  | refl => exact ⟨.refl, rfl⟩
  | @read ps aps m' _ ih =>
      obtain ⟨hread, hidx⟩ := asked_readPacket m'
      rw [ih.2] at hread
      exact ⟨ih.1.trans hread, hidx.trans ih.2⟩
  | @peek ps aps m' _ ih =>
      obtain ⟨hread, hidx⟩ := asked_peek m'
      rw [ih.2] at hread
      exact ⟨ih.1.trans hread, hidx.trans ih.2⟩
  | audio _ hread ih =>
      rw [(readAudioPacket_some hread).2]
      exact ih

/-- The first rounds of a read, which go on, with the packets they take. -/
inductive Rounds (m : MediaSource D B) : List AVPacket → MediaSource D B → Prop where
  | refl : Rounds m [] m
  | tail {ps : List AVPacket} {n n' : MediaSource D B} (h : Rounds m ps n)
      (hround : n.readRound = (none, n')) : Rounds m (ps ++ n.roundReads) n'

/-- The rest of the read starts where these rounds end. -/
theorem Rounds.readLoop {m n : MediaSource D B} {ps : List AVPacket} (h : Rounds m ps n)
    {fuel : Nat} (hfuel : m.roundsLeft < fuel) :
    ∃ fuel', n.roundsLeft < fuel' ∧ MediaSource.readLoop fuel m = MediaSource.readLoop fuel' n ∧
      loopReads fuel m = ps ++ loopReads fuel' n := by
  induction h with
  | refl => exact ⟨fuel, hfuel, rfl, rfl⟩
  | @tail ps n n' _ hround ih =>
      obtain ⟨fuel', hleft, hloop, hreads⟩ := ih
      obtain ⟨k, rfl⟩ : ∃ k, fuel' = k + 1 := Nat.exists_eq_succ_of_ne_zero (by omega)
      have hlt := readRound_lt hround
      refine ⟨k, by omega, ?_, ?_⟩
      · rw [hloop, MediaSource.readLoop, hround]
      · rw [hreads, loopReads, hround, List.append_assoc]

theorem Rounds.packetReads {m n : MediaSource D B} {ps : List AVPacket} (h : Rounds m ps n)
    (hslot : m.prefetchVp = none) : ∃ fuel, n.roundsLeft < fuel ∧
      m.readPacket = MediaSource.readLoop fuel n ∧ m.packetReads = ps ++ loopReads fuel n := by
  rw [readPacket_of_none hslot, packetReads_none hslot]
  exact h.readLoop (Nat.lt_succ_of_le m.roundsLeft_le)

/-- Rounds of asking are rounds of reads. -/
theorem exists_rounds {m : MediaSource D B} {ps : List AVPacket} {s : Supply D B}
    (hslot : m.prefetchVp = none) (h : Supply.Asked m.videoIdx m.supply ps s) :
    ∃ qs qs' k n, ps = qs ++ qs' ∧ Pulls m qs [] k ∧ k.prefetchVp = none ∧ Rounds k qs' n ∧
      n.supply = s ∧ n.videoIdx = m.videoIdx := by
  induction h with
  | refl => exact ⟨[], [], m, m, rfl, .refl, hslot, .refl, rfl, rfl⟩
  | @tail ps s _ ih =>
      obtain ⟨qs, qs', k, n, rfl, hpulls, hk, hrounds, rfl, hidx⟩ := ih
      obtain ⟨hask, hidx'⟩ := ask_supply n
      have htakes : n.supply.takes = n.roundReads := rfl
      obtain ⟨r, n', hround⟩ : ∃ r n', n.readRound = (r, n') := ⟨_, _, rfl⟩
      rw [hround, hidx] at hask
      rw [hround] at hidx'
      rw [htakes, hask]
      cases r with
      | none =>
          exact ⟨qs, qs' ++ n.roundReads, k, n', List.append_assoc _ _ _, hpulls, hk,
            hrounds.tail hround, rfl, hidx'.trans hidx⟩
      | some r =>
          -- the round ends the read
          obtain ⟨fuel, hfuel, hread, hreads⟩ := hrounds.packetReads hk
          obtain ⟨j, rfl⟩ : ∃ j, fuel = j + 1 := Nat.exists_eq_succ_of_ne_zero (by omega)
          rw [MediaSource.readLoop, hround] at hread
          rw [loopReads, hround, List.append_nil] at hreads
          have hslot' : n'.prefetchVp = none := by
            cases r with
            | none => exact readPacket_none hread
            | some vp => exact prefetchVp_readPacket hread
          have hend := hpulls.read
          rw [hread, hreads] at hend
          refine ⟨_, [], n', n', ?_, hend, hslot', .refl, rfl, hidx'.trans hidx⟩
          rw [List.append_nil, List.append_assoc]

/-- Reads of a source come to the first audio packet of its supply. -/
theorem pulls_first {m : MediaSource D B} (hslot : m.prefetchVp = none) {ps : List AVPacket}
    {s : Supply D B} {p : AVPacket} (h : Supply.Asked m.videoIdx m.supply ps s)
    (hp : (ps.filter m.audioSide.isAudio).head? = some p) :
    ∃ qs m', Pulls m qs [] m' ∧ (qs.filter m.audioSide.isAudio).head? = some p := by
  obtain ⟨qs, qs', k, n, rfl, hpulls, hk, hrounds, -, -⟩ := exists_rounds hslot h
  obtain ⟨fuel, -, -, hreads⟩ := hrounds.packetReads hk
  refine ⟨_, _, hpulls.read, ?_⟩
  rw [hreads, ← List.append_assoc, List.filter_append, List.head?_append, hp]
  rfl

/-- The first audio packet that asking the supply comes to is at `audio_first_pts_`, so far as
    the audio clock can tell, or that is not set. -/
def FirstAudioOnTime (s : Supply D B) (a : AudioSide) : Prop :=
  a.firstPts = avNoPtsValue ∨ ∀ ps s', Supply.Asked a.videoIdx s ps s' → ∀ p,
    (ps.filter a.isAudio).head? = some p → a.ticks p = 0

/-! ## Seeks -/

/-- A call that repositions the source. -/
inductive SeekCall where
  | seek (offset : UInt32)
  | seekToSeconds (secs : Rat)

def SeekCall.run (m : MediaSource D B) : SeekCall → MediaSource D B
  | .seek offset => m.seek offset
  | .seekToSeconds secs => m.seekToSeconds secs

/-- The call takes the path on which `av_seek_frame` fails and the source is rewound. -/
def Rewinds (m : MediaSource D B) : SeekCall → Prop
  | .seek _ => False
  | .seekToSeconds secs =>
      0 ≤ secs ∧ (seekFrame B (targetTs secs m.timeBase) m.fmtCtx).1 = false

/-- What the source reads from when the call rewinds it. -/
def SeekCall.rewound (m : MediaSource D B) : SeekCall → Supply D B
  | .seek _ => ⟨(seekFrame B 0 m.fmtCtx).2, m.flushBsf.bsfCtx, false⟩
  | .seekToSeconds secs =>
      ⟨(seekFrame B 0 (seekFrame B (targetTs secs m.timeBase) m.fmtCtx).2).2,
        m.flushBsf.flushBsf.bsfCtx, false⟩

/-- The filter of the source, if it has one, was just flushed. -/
def FilterFlushed (m : MediaSource D B) : Prop :=
  ∀ b, m.bsfCtx = some b → ∃ b₀, b = bsfFlush D b₀

/-- What a call of `seek` or `seekToSeconds` leaves. -/
structure Sought (m m' : MediaSource D B) : Prop where
  prefetchVp : m'.prefetchVp = m.prefetchVp
  firstPts : m'.firstPts = avNoPtsValue
  audioIdx : m'.audioIdx = m.audioIdx
  atStart : m'.bsfAtEof = false
  flushed : m'.FilterFlushed

theorem FilterFlushed.fed {m : MediaSource D B} (h : m.FilterFlushed) (S : AVPacket → Prop) :
    Fed S m := by
  intro b hb
  obtain ⟨b₀, rfl⟩ := h b hb
  exact .flushed b₀

theorem filterFlushed_of {m m' : MediaSource D B} (h : m'.bsfCtx = m.flushBsf.bsfCtx) :
    m'.FilterFlushed := by
  intro b hb
  rw [h] at hb
  obtain ⟨b₀, -, rfl⟩ := Option.map_eq_some_iff.mp hb
  exact ⟨b₀, rfl⟩

theorem sought_seek (offset : UInt32) (m : MediaSource D B) : Sought m (m.seek offset) :=
  ⟨rfl, rfl, rfl, rfl, filterFlushed_of rfl⟩

/-- The paths of `seekToSeconds`. -/
theorem seekToSeconds_cases (secs : Rat) (m : MediaSource D B) :
    (secs < 0 ∧ m.seekToSeconds secs = m.seek 0) ∨
    (0 ≤ secs ∧ (seekFrame B (targetTs secs m.timeBase) m.fmtCtx).1 = false ∧
      m.seekToSeconds secs = { m.flushBsf.flushBsf with
        fmtCtx := (seekFrame B 0 (seekFrame B (targetTs secs m.timeBase) m.fmtCtx).2).2
        bsfAtEof := false, rtpOffset := 0, firstPts := avNoPtsValue }) ∨
    (0 ≤ secs ∧ (seekFrame B (targetTs secs m.timeBase) m.fmtCtx).1 = true ∧
      ∃ d offset audioOffset, m.seekToSeconds secs = { m.flushBsf.flushBsf with
        fmtCtx := d, bsfAtEof := false, rtpOffset := offset, firstPts := avNoPtsValue
        audioFirstPts := avNoPtsValue, audioRtpOffset := audioOffset, audioQueue := [] }) := by
  unfold seekToSeconds
  split
  · next hsecs => exact .inl ⟨hsecs, rfl⟩
  · next hsecs =>
      dsimp only
      split
      · next d hseek =>
          have hd : (seekFrame B (targetTs secs m.timeBase) m.fmtCtx).2 = d :=
            congrArg Prod.snd hseek
          exact .inr (.inl ⟨not_lt.mp hsecs, congrArg Prod.fst hseek, by rw [hd]⟩)
      · next d hseek => exact .inr (.inr ⟨not_lt.mp hsecs, congrArg Prod.fst hseek, _, _, _, rfl⟩)

theorem sought_run (m : MediaSource D B) (call : SeekCall) : Sought m (call.run m) := by
  cases call with
  | seek offset => exact sought_seek offset m
  | seekToSeconds secs =>
      change Sought m (m.seekToSeconds secs)
      rcases seekToSeconds_cases secs m with
        ⟨-, heq⟩ | ⟨-, -, heq⟩ | ⟨-, -, d, offset, audioOffset, heq⟩
      · rw [heq]
        exact sought_seek 0 m
      · rw [heq]
        exact ⟨rfl, rfl, rfl, rfl, filterFlushed_of (m := m.flushBsf) rfl⟩
      · rw [heq]
        exact ⟨rfl, rfl, rfl, rfl, filterFlushed_of (m := m.flushBsf) rfl⟩

/-- On every path but one the audio starts again. -/
theorem audio_run {m : MediaSource D B} {call : SeekCall} (h : ¬ Rewinds m call) :
    (call.run m).audioFirstPts = avNoPtsValue ∧ (call.run m).audioQueue = [] := by
  cases call with
  | seek offset => exact ⟨rfl, rfl⟩
  | seekToSeconds secs =>
      change (m.seekToSeconds secs).audioFirstPts = _ ∧ (m.seekToSeconds secs).audioQueue = _
      rcases seekToSeconds_cases secs m with
        ⟨-, heq⟩ | ⟨hsecs, hfails, -⟩ | ⟨-, -, d, offset, audioOffset, heq⟩
      · rw [heq]
        exact ⟨rfl, rfl⟩
      · exact absurd ⟨hsecs, hfails⟩ h
      · rw [heq]
        exact ⟨rfl, rfl⟩

/-- On that path the audio is as it was, before the rewound file. -/
theorem run_rewinds {m : MediaSource D B} {call : SeekCall} (h : Rewinds m call) :
    (call.run m).audioSide = m.audioSide ∧ (call.run m).supply = call.rewound m := by
  cases call with
  | seek offset => exact h.elim
  | seekToSeconds secs =>
      obtain ⟨hsecs, hfails⟩ := h
      change (m.seekToSeconds secs).audioSide = _ ∧ (m.seekToSeconds secs).supply = _
      rcases seekToSeconds_cases secs m with ⟨hneg, -⟩ | ⟨-, -, heq⟩ | ⟨-, hok, -⟩
      · exact absurd hsecs (not_le.mpr hneg)
      · rw [heq]
        exact ⟨rfl, rfl⟩
      · rw [hfails] at hok
        cases hok

/-! ## What is delivered -/

end MediaSource

/-- A flush empties the filter, and opens it again when it was sent the null packet. -/
def QueueFilter.FlushOpens {made : AVPacket → AVPacket → Prop} (F : QueueFilter D B made) : Prop :=
  ∀ b, F.held (bsfFlush D b) = [] ∧ F.ended (bsfFlush D b) = false

namespace MediaSource

variable {made : AVPacket → AVPacket → Prop}

/-- The filter of the source, if it has one, is a queue that a flush opens. -/
def FilterQueues (made : AVPacket → AVPacket → Prop) (m : MediaSource D B) : Prop :=
  m.bsfCtx.isSome = true → ∃ F : QueueFilter D B made, F.FlushOpens

/-- The next read and the next look ahead deliver the frame of this packet. -/
def Delivers (made : AVPacket → AVPacket → Prop) (m : MediaSource D B) (p : AVPacket) : Prop :=
  ∃ vp, FrameOf made m p vp ∧ m.readPacket.1 = some vp ∧
    m.peekNextVideoRTPTimestamp.1 = vp.rtpTimestamp ∧
    m.peekNextVideoRTPTimestamp.2.prefetchVp = some vp

/-- The frame that is peeked at stays in the slot. -/
theorem peek_of_readPacket {m : MediaSource D B} {vp : VideoPacket}
    (h : m.readPacket.1 = some vp) : m.peekNextVideoRTPTimestamp.1 = vp.rtpTimestamp ∧
      m.peekNextVideoRTPTimestamp.2.prefetchVp = some vp := by
  unfold peekNextVideoRTPTimestamp
  split
  · next held hheld =>
      simp only [readPacket, hheld] at h
      obtain rfl := Option.some.inj h
      exact ⟨rfl, hheld⟩
  · split
    · next hread =>
        rw [hread] at h
        cases h
    · next hread =>
        rw [hread] at h
        obtain rfl := Option.some.inj h
        exact ⟨rfl, rfl⟩

theorem delivers_of_readPacket {m : MediaSource D B} {p : AVPacket} {vp : VideoPacket}
    (hof : FrameOf made m p vp) (h : m.readPacket.1 = some vp) : Delivers made m p :=
  ⟨vp, hof, h, peek_of_readPacket h⟩

/-- What is in the file up to the next video packet. -/
theorem NextVideo.contents {videoIdx : Int} {d : D} {qs : List AVPacket} {p : AVPacket}
    (h : NextVideo B videoIdx d qs p) : (∀ q ∈ qs, q.streamIndex ≠ videoIdx) ∧
      p.streamIndex = videoIdx ∧ ∃ rest, Contents B d (qs ++ p :: rest) := by
  induction qs generalizing d with
  | nil =>
      obtain ⟨hvideo, d', hread⟩ := h
      obtain ⟨rest, hrest⟩ := exists_contents (B := B) d'
      exact ⟨nofun, hvideo, rest, .packet hread hrest⟩
  | cons q qs ih =>
      obtain ⟨hother, d', hread, hnext⟩ := h
      obtain ⟨hothers, hvideo, rest, hrest⟩ := ih hnext
      exact ⟨List.forall_mem_cons.mpr ⟨hother, hothers⟩, hvideo, rest, .packet hread hrest⟩

/-- Without a filter the read goes on to the next video packet. -/
theorem delivers_unfiltered {m : MediaSource D B} (hslot : m.prefetchVp = none)
    (hb : m.bsfCtx = none) {qs : List AVPacket} {p : AVPacket}
    (hnext : NextVideo B m.videoIdx m.fmtCtx qs p) : Delivers made m p := by
  have hfuel : qs.length < remaining B m.fmtCtx + 2 := by
    have := length_lt_remaining hnext
    omega
  obtain ⟨vp, hread, hvp⟩ := readLoop_next qs hb hnext hfuel
  rw [← readPacket_of_none hslot] at hread
  exact delivers_of_readPacket (.inl ⟨hb, hvp⟩) hread

/-- A queue that was flushed, before the end of the file: the next video packet comes out first. -/
theorem delivers_queued {F : QueueFilter D B made} (hF : F.FlushOpens) {m : MediaSource D B}
    (hslot : m.prefetchVp = none) (hstart : m.bsfAtEof = false) (hflushed : m.FilterFlushed)
    {qs : List AVPacket} {p : AVPacket} (hnext : NextVideo B m.videoIdx m.fmtCtx qs p) :
    Delivers made m p := by
  obtain ⟨hothers, hvideo, rest, hfile⟩ := hnext.contents
  have hempty : ∀ b, m.bsfCtx = some b → F.held b = [] ∧ F.ended b = false := by
    intro b hb
    obtain ⟨b₀, rfl⟩ := hflushed b hb
    exact hF b₀
  have hleft : Left F m (qs ++ p :: rest) := by
    refine ⟨hslot, fun b hb => (hempty b hb).2.trans hstart.symm, fun _ => hfile, fun htrue => ?_⟩
    rw [hstart] at htrue
    cases htrue
  have hcome : m.toCome F (qs ++ p :: rest) = p :: rest.filter m.isVideo := by
    have hheld : m.held F = [] := by
      cases hb : m.bsfCtx with
      | none => rw [held, hb, Option.elim_none]
      | some b => rw [held, hb, Option.elim_some, (hempty b hb).1]
    have hqs : qs.filter m.isVideo = [] :=
      List.filter_eq_nil_iff.mpr fun q hq => by simpa [isVideo] using hothers q hq
    rw [toCome, hheld, List.filter_append, hqs,
      List.filter_cons_of_pos (by simpa [isVideo] using hvideo)]
    rfl
  obtain ⟨ps', -, hadv⟩ := readPacket_advances F hleft
  obtain ⟨r, m', hread⟩ : ∃ r m', m.readPacket = (r, m') := ⟨_, _, rfl⟩
  rw [hread] at hadv
  cases hadv with
  | frame _ _ next made =>
      obtain ⟨rfl, -⟩ := List.cons.inj (hcome.symm.trans next)
      exact delivers_of_readPacket made (congrArg Prod.fst hread)
  | stops done =>
      rw [hcome] at done
      cases done

/-- Nothing that was read before comes out of the source: `m` is how the call left it. -/
structure Flushed (made : AVPacket → AVPacket → Prop) (m : MediaSource D B) : Prop where
  /-- the next frame is made from a packet demuxed by that call, and is at the offset -/
  read : ∀ vp m', m.readPacket = (some vp, m') →
    (∃ p ∈ m.packetReads, FrameOf made m p vp) ∧ vp.rtpTimestamp = m.rtpOffset
  /-- the frame that is peeked at as well -/
  peek : ∀ ts vp m', m.peekNextVideoRTPTimestamp = (ts, m') → m'.prefetchVp = some vp →
    (∃ p ∈ m.packetReads, FrameOf made m p vp) ∧ vp.rtpTimestamp = m.rtpOffset ∧
      ts = m.rtpOffset
  /-- the next video packet of the demuxer is delivered -/
  next : m.FilterQueues made → ∀ qs p, NextVideo B m.videoIdx m.fmtCtx qs p → Delivers made m p
  /-- the audio packets that are returned and those that are queued are those demuxed since, in
      order and each once, and the first one is at the offset -/
  audio : 0 ≤ m.audioIdx → ∀ ps aps m', Pulls m ps aps m' →
    (aps ++ m'.audioQueue).map (·.data) = (ps.filter m.audioSide.isAudio).map (·.data) ∧
      ∀ ap, (aps ++ m'.audioQueue).head? = some ap → ap.rtpTimestamp = m.audioRtpOffset

theorem flushed_video (hdrop : DropsOnFlush D B made)
    {m : MediaSource D B} (hnone : m.prefetchVp = none) (hfirst : m.firstPts = avNoPtsValue)
    (hfed : ∀ S, Fed S m) {vp : VideoPacket} {m' : MediaSource D B}
    (hread : m.readPacket = (some vp, m')) :
    (∃ p ∈ m.packetReads, FrameOf made m p vp) ∧ vp.rtpTimestamp = m.rtpOffset := by
  have htakes := takes_readLoop hdrop (remaining B m.fmtCtx + 2) m
  rw [← readPacket_of_none hnone, ← packetReads_none hnone, hread] at htakes
  exact ⟨htakes.frame (· ∈ m.packetReads) vp (hfed _) (fun p hp => hp) rfl,
    htakes.clock hfirst vp rfl⟩

theorem flushed_peek (hdrop : DropsOnFlush D B made)
    {m : MediaSource D B} (hnone : m.prefetchVp = none) (hfirst : m.firstPts = avNoPtsValue)
    (hfed : ∀ S, Fed S m) {ts : UInt32} {vp : VideoPacket} {m' : MediaSource D B}
    (hpeek : m.peekNextVideoRTPTimestamp = (ts, m')) (hvp : m'.prefetchVp = some vp) :
    (∃ p ∈ m.packetReads, FrameOf made m p vp) ∧ vp.rtpTimestamp = m.rtpOffset ∧
      ts = m.rtpOffset := by
  simp only [peekNextVideoRTPTimestamp, hnone] at hpeek
  split at hpeek
  · next m'' heq =>
      -- nothing could be read, so nothing is in the slot
      cases hpeek
      rw [readPacket_none heq] at hvp
      cases hvp
  · next vp' m'' heq =>
      cases hpeek
      obtain rfl := Option.some.inj hvp
      obtain ⟨hmade, hts⟩ := flushed_video hdrop hnone hfirst hfed heq
      exact ⟨hmade, hts, hts⟩

/-- A frame in the slot is returned without a look at the demuxer. -/
theorem Flushed.slot {m : MediaSource D B} (h : Flushed made m) : m.prefetchVp = none := by
  cases hvp : m.prefetchVp with
  | none => rfl
  | some vp =>
      have hread : m.readPacket = (some vp, { m with prefetchVp := none }) := by
        simp only [readPacket, hvp]
      obtain ⟨⟨p, hp, -⟩, -⟩ := h.read vp _ hread
      simp only [packetReads, hvp] at hp
      cases hp

/-! ## The audio behind a seek -/

theorem queue_pulls {m m' : MediaSource D B} {ps : List AVPacket} {aps : List AudioPacket}
    (h : Pulls m ps aps m') :
    aps ++ m'.audioQueue = (ps.foldl AudioSide.take m.audioSide).queue :=
  congrArg AudioSide.queue (audioSide_pulls h)

/-- The audio of a source whose queue is empty. -/
theorem audio_pulls {m m' : MediaSource D B} (hempty : m.audioQueue = [])
    (htime : FirstAudioOnTime m.supply m.audioSide) {ps : List AVPacket} {aps : List AudioPacket}
    (hpulls : Pulls m ps aps m') :
    (aps ++ m'.audioQueue).map (·.data) = (ps.filter m.audioSide.isAudio).map (·.data) ∧
      ∀ ap, (aps ++ m'.audioQueue).head? = some ap → ap.rtpTimestamp = m.audioRtpOffset := by
  rw [queue_pulls hpulls]
  constructor
  · rw [AudioSide.queue_foldl]
    change m.audioQueue.map _ ++ _ = _
    rw [hempty]
    rfl
  · intro ap hap
    rw [AudioSide.head_foldl_empty ps hempty] at hap
    obtain ⟨p, hp, rfl⟩ := Option.map_eq_some_iff.mp hap
    have hticks : m.audioSide.ticks p = 0 := by
      rcases htime with hunset | htime
      · exact AudioSide.ticks_of_unset hunset p
      · exact htime ps m'.supply hpulls.asked.1 p hp
    change m.audioSide.ticks p + m.audioRtpOffset = _
    rw [hticks, UInt32.zero_add]

/-- Only then is it as `audio_pulls` says. -/
theorem onTime_of_pulls {m : MediaSource D B} (hslot : m.prefetchVp = none)
    (h : ∀ ps aps m', Pulls m ps aps m' →
      (aps ++ m'.audioQueue).map (·.data) = (ps.filter m.audioSide.isAudio).map (·.data) ∧
        ∀ ap, (aps ++ m'.audioQueue).head? = some ap → ap.rtpTimestamp = m.audioRtpOffset) :
    m.audioQueue = [] ∧ FirstAudioOnTime m.supply m.audioSide := by
  have hempty : m.audioQueue = [] := by
    have hnow := (h [] [] m .refl).1
    simpa using hnow
  refine ⟨hempty, .inr fun ps s' hasked p hp => ?_⟩
  obtain ⟨qs, m', hpulls, hqs⟩ := pulls_first hslot hasked hp
  have hhead : ([] ++ m'.audioQueue).head? = some (m.audioSide.stamp p) := by
    rw [queue_pulls hpulls, AudioSide.head_foldl_empty qs hempty, hqs]
    rfl
  have hts : m.audioSide.ticks p + m.audioRtpOffset = m.audioRtpOffset :=
    (h qs [] m' hpulls).2 _ hhead
  exact UInt32.add_eq_right.mp hts

/-- The first audio packet that is queued is at the offset; when none is, the first one that reads
    of the source get to will be. -/
structure AudioAtOffset (m : MediaSource D B) : Prop where
  queued : ∀ ap, m.audioQueue.head? = some ap → ap.rtpTimestamp = m.audioRtpOffset
  next : m.audioQueue = [] → FirstAudioOnTime m.supply m.audioSide

theorem audioAtOffset_run {m : MediaSource D B} {call : SeekCall} (h : ¬ Rewinds m call) :
    AudioAtOffset (call.run m) := by
  obtain ⟨hfirst, hqueue⟩ := audio_run h
  refine ⟨fun ap hap => ?_, fun _ => .inl hfirst⟩
  rw [hqueue] at hap
  cases hap

/-- Then it is the first one that is returned. -/
theorem AudioAtOffset.pulls {m m' : MediaSource D B} {ps : List AVPacket} {aps : List AudioPacket}
    {ap : AudioPacket} (h : AudioAtOffset m) (hpulls : Pulls m ps aps m')
    (hap : (aps ++ m'.audioQueue).head? = some ap) : ap.rtpTimestamp = m.audioRtpOffset := by
  cases hqueue : m.audioQueue with
  | nil => exact (audio_pulls hqueue (h.next hqueue) hpulls).2 ap hap
  | cons first rest =>
      have hfirst : m.audioSide.queue.head? = some first := congrArg List.head? hqueue
      rw [queue_pulls hpulls, AudioSide.head_foldl ps hfirst] at hap
      obtain rfl := Option.some.inj hap
      exact h.queued first (congrArg List.head? hqueue)

/-- A look ahead leaves the audio offset alone. -/
theorem audioRtpOffset_peek (m : MediaSource D B) :
    m.peekNextVideoRTPTimestamp.2.audioRtpOffset = m.audioRtpOffset := by
  have hside := congrArg AudioSide.rtpOffset (audioSide_peek m)
  rw [AudioSide.rtpOffset_foldl] at hside
  exact hside

theorem streamInfo_peek (m : MediaSource D B) :
    m.peekNextVideoRTPTimestamp.2.streamInfo = m.streamInfo := by
  have hread := streamInfo_readPacket m
  unfold peekNextVideoRTPTimestamp
  split
  · rfl
  · split
    · next heq =>
        rw [heq] at hread
        exact hread
    · next heq =>
        rw [heq] at hread
        exact hread

/-- **A seek flushes what was read before it**, for every source and every call of `seek` and
    `seekToSeconds`, on every path: the next video packet of the demuxer is delivered, the next
    frame is made from a packet demuxed after the call and stamped with the offset it leaves, and
    the audio packets are those demuxed after it, the first one stamped with the audio offset, if
    and only if no frame was prefetched and, when the source has audio and is rewound because
    `av_seek_frame` failed, no audio packet was queued and the first one of the rewound file is on
    the audio clock as it was. -/
theorem seek_flushes_iff (made : AVPacket → AVPacket → Prop) (hdrop : DropsOnFlush D B made)
    (call : SeekCall) (m : MediaSource D B) :
    Flushed made (call.run m) ↔
      m.prefetchVp = none ∧ (Rewinds m call → 0 ≤ m.audioIdx →
        m.audioQueue = [] ∧ FirstAudioOnTime (call.rewound m) m.audioSide) := by
  have hs := sought_run m call
  constructor
  · intro h
    have hnone : m.prefetchVp = none := hs.prefetchVp.symm.trans h.slot
    refine ⟨hnone, fun hr haudio => ?_⟩
    obtain ⟨hside, hsupply⟩ := run_rewinds hr
    have hflushed := onTime_of_pulls h.slot (h.audio (hs.audioIdx ▸ haudio))
    rw [hside, hsupply] at hflushed
    exact ⟨(congrArg AudioSide.queue hside).symm.trans hflushed.1, hflushed.2⟩
  · rintro ⟨hnone, hrewinds⟩
    have hslot : (call.run m).prefetchVp = none := hs.prefetchVp.trans hnone
    refine ⟨fun vp m' hread => flushed_video hdrop hslot hs.firstPts hs.flushed.fed hread,
      fun ts vp m' hpeek hvp => flushed_peek hdrop hslot hs.firstPts hs.flushed.fed hpeek hvp,
      fun hfilter qs p hnext => ?_, fun haudio ps aps m' => ?_⟩
    · cases hb : (call.run m).bsfCtx with
      | none => exact delivers_unfiltered hslot hb hnext
      | some b =>
          obtain ⟨F, hF⟩ := hfilter (by rw [hb]; rfl)
          exact delivers_queued hF hslot hs.atStart hs.flushed hnext
    · refine audio_pulls ?_ ?_
      all_goals by_cases hr : Rewinds m call
      · exact (congrArg AudioSide.queue (run_rewinds hr).1).trans
          (hrewinds hr (hs.audioIdx ▸ haudio)).1
      · exact (audio_run hr).2
      · rw [(run_rewinds hr).1, (run_rewinds hr).2]
        exact (hrewinds hr (hs.audioIdx ▸ haudio)).2
      · exact .inl (audio_run hr).1

end MediaSource

/-! ## Files with two key frames -/

namespace DelayQueue

theorem mem_of_fedSince {S : AVPacket → Prop} {b : DelayQueue}
    (h : MediaSource.FedSince PacketList S b) : ∀ p ∈ b.pending, S p := by
  induction h with
  | flushed b => exact fun _ hp => nomatch hp
  | @sent b p _ hp ih =>
      intro q hq
      rcases List.mem_append.mp hq with hq | hq
      · exact ih q hq
      · rw [List.mem_singleton.mp hq]
        exact hp
  | ended _ ih => exact ih
  | @received b _ ih =>
      rcases bsfReceive_cases b with ⟨-, -, heq⟩ | ⟨-, heq⟩ | ⟨p, rest, hb, heq⟩
      · rw [heq]
        exact ih
      · rw [heq]
        exact ih
      · rw [heq]
        rw [hb] at ih
        exact fun q hq => ih q (List.mem_cons_of_mem p hq)

theorem dropsOnFlush : MediaSource.DropsOnFlush PacketList DelayQueue (fun p q => p = q) := by
  intro S b q b' hfed hrec
  rcases bsfReceive_cases b with ⟨-, -, heq⟩ | ⟨-, heq⟩ | ⟨p, rest, hb, heq⟩
  · cases (Prod.mk.inj (heq.symm.trans hrec)).1
  · cases (Prod.mk.inj (heq.symm.trans hrec)).1
  · obtain ⟨hres, -⟩ := Prod.mk.inj (heq.symm.trans hrec)
    exact ⟨p, mem_of_fedSince hfed p (by rw [hb]; exact List.mem_cons_self),
      BsfResult.packet.inj hres⟩

theorem flushOpens : queueFilter.FlushOpens := fun _ => ⟨rfl, rfl⟩

end DelayQueue

namespace MediaSource

/-- The file read to its end, through a filter that was flushed there and still holds packets. -/
def filteredKeys : MediaSource PacketList DelayQueue :=
  { fmtCtx := ⟨twoKeys.reverse, []⟩, bsfCtx := some ⟨8, twoKeys, true⟩
    videoIdx := keysSource.videoIdx, timeBase := keysSource.timeBase
    streamInfo := keysSource.streamInfo, audioInfo := keysSource.audioInfo
    audioIdx := keysSource.audioIdx, audioTimeBase := keysSource.audioTimeBase
    audioFirstPts := keysSource.audioFirstPts, audioRtpOffset := keysSource.audioRtpOffset
    audioQueue := keysSource.audioQueue, rtpOffset := keysSource.rtpOffset
    firstPts := keysSource.firstPts, bsfAtEof := true, prefetchVp := keysSource.prefetchVp }

/-- The second key frame is delivered, although the filter gives it out at the end of the file
    only. -/
theorem seek_flushes_iff_filtered :
    Flushed (fun p q => p = q) ((SeekCall.seekToSeconds 1).run filteredKeys) ∧
      ∃ p, p ∈ twoKeys ∧ p.pts = 90000 ∧
        Delivers (fun p q => p = q) ((SeekCall.seekToSeconds 1).run filteredKeys) p := by
  have hflushed := (seek_flushes_iff _ DelayQueue.dropsOnFlush (.seekToSeconds 1) filteredKeys).mpr
    ⟨rfl, fun _ haudio => absurd haudio (by decide)⟩
  refine ⟨hflushed, _, List.mem_of_mem_tail List.mem_cons_self, rfl,
    hflushed.next (fun _ => ⟨DelayQueue.queueFilter, DelayQueue.flushOpens⟩) [] _ ?_⟩
  have hfile : ((SeekCall.seekToSeconds 1).run filteredKeys).fmtCtx =
      ⟨twoKeys.take 1, twoKeys.drop 1⟩ := by decide +kernel
  exact ⟨by decide +kernel, _, by rw [hfile]; rfl⟩

/-- The source after it was asked for its next timestamp, as a PLAY does. -/
def peekedKeys : MediaSource PacketList Unit := keysSource.peekNextVideoRTPTimestamp.2

/-- The frame in the slot survives a seek to the second one. -/
theorem peekedKeys_not_flushed :
    ¬ Flushed (fun p q => p = q) ((SeekCall.seekToSeconds 1).run peekedKeys) := by
  intro h
  have hread : ((SeekCall.seekToSeconds 1).run peekedKeys).readPacket.1.map (·.rtpTimestamp) =
      some 0 := by
    decide +kernel
  obtain ⟨vp, hvp, hzero⟩ := Option.map_eq_some_iff.mp hread
  have hts := (h.read vp _ (Prod.ext hvp rfl)).2
  rw [hzero] at hts
  exact absurd hts (by decide +kernel)

end MediaSource

end RtspServer
