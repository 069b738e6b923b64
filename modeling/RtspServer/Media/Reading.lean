/-
  What reads of a source take from the demuxer, and what they make of it. `packetReads m` are the
  packets that `readPacket` takes, and `Takes` says what becomes of them: the audio packets are
  queued (`AudioSide.take`), a frame is made of one of the video packets, or of one that the
  filter was sent since it was flushed (`FedSince`), and the first frame behind a reset of the
  clock is at the offset.

  `Pulls m ps aps m'` says that reads of the source take the packets `ps` from the demuxer and
  return the audio packets `aps`.
-/
import RtspServer.Media.MediaSource

namespace RtspServer

open ByteString

namespace MediaSource

variable {D B : Type}

theorem avRescaleQ_zero (tb : TimeBase) (rate : Nat) : avRescaleQ 0 tb rate = 0 := by
  unfold avRescaleQ avRescale
  rw [if_pos (le_refl 0), Int.toNat_zero, Nat.zero_mul, Nat.zero_add,
    Nat.div_eq_of_lt (Nat.div_lt_self tb.den_pos (by decide))]
  rfl

theorem toUInt32_zero : toUInt32 0 = 0 := rfl

/-! ## The audio side of a source -/

/-- What the queueing of audio packets reads and writes. -/
structure AudioSide where
  videoIdx : Int
  audioIdx : Int
  sampleRate : Int
  timeBase : TimeBase
  firstPts : Int
  rtpOffset : UInt32
  queue : List AudioPacket

def audioSide (m : MediaSource D B) : AudioSide :=
  { videoIdx := m.videoIdx, audioIdx := m.audioIdx, sampleRate := m.audioInfo.sampleRate
    timeBase := m.audioTimeBase, firstPts := m.audioFirstPts, rtpOffset := m.audioRtpOffset
    queue := m.audioQueue }

namespace AudioSide

/-- The packet is of the audio stream. -/
def isAudio (a : AudioSide) (p : AVPacket) : Bool :=
  p.streamIndex ≠ a.videoIdx ∧ 0 ≤ a.audioIdx ∧ p.streamIndex = a.audioIdx

/-- The distance of the packet from the first one, in samples. -/
def ticks (a : AudioSide) (p : AVPacket) : UInt32 :=
  toUInt32 (avRescaleQ (p.time - if a.firstPts = avNoPtsValue then p.time else a.firstPts)
    a.timeBase a.sampleRate.toNat)

theorem ticks_of_unset {a : AudioSide} (h : a.firstPts = avNoPtsValue) (p : AVPacket) :
    a.ticks p = 0 := by
  rw [ticks, if_pos h, Int.sub_self, avRescaleQ_zero, toUInt32_zero]

def stamp (a : AudioSide) (p : AVPacket) : AudioPacket :=
  { data := p.data, rtpTimestamp := a.ticks p + a.rtpOffset }

/-- A demuxed packet: audio is queued. -/
def take (a : AudioSide) (p : AVPacket) : AudioSide :=
  if a.isAudio p then
    { a with
      firstPts := if a.firstPts = avNoPtsValue then p.time else a.firstPts
      queue := a.queue ++ [a.stamp p] }
  else a

theorem isAudio_take (a : AudioSide) (p q : AVPacket) : (a.take p).isAudio q = a.isAudio q := by
  unfold take
  split <;> rfl

/-- The queue grows by the audio packets, in order. -/
theorem queue_foldl (a : AudioSide) (ps : List AVPacket) :
    (ps.foldl take a).queue.map (·.data) =
      a.queue.map (·.data) ++ (ps.filter a.isAudio).map (·.data) := by
  induction ps generalizing a with
  | nil => simp
  | cons p ps ih =>
      have hsame : (a.take p).isAudio = a.isAudio := by
        funext q
        exact isAudio_take a p q
      rw [List.foldl_cons, ih, hsame]
      by_cases hp : a.isAudio p
      · simp [take, hp, stamp]
      · simp [take, hp]

/-- The first packet of a queue stays in front. -/
theorem head_foldl {a : AudioSide} {ap : AudioPacket} (ps : List AVPacket)
    (h : a.queue.head? = some ap) : (ps.foldl take a).queue.head? = some ap := by
  induction ps generalizing a with
  | nil => exact h
  | cons p ps ih =>
      refine ih ?_
      unfold take
      split
      · rw [List.head?_append, h]
        rfl
      · exact h

/-- The first packet that is queued. -/
theorem head_foldl_empty {a : AudioSide} (ps : List AVPacket) (h : a.queue = []) :
    (ps.foldl take a).queue.head? = (ps.filter a.isAudio).head?.map a.stamp := by
  induction ps generalizing a with
  | nil => rw [List.foldl_nil, h]; rfl
  | cons p ps ih =>
      rw [List.foldl_cons]
      by_cases hp : a.isAudio p
      · have hfirst : (a.take p).queue.head? = some (a.stamp p) := by simp [take, hp, h]
        rw [head_foldl ps hfirst, List.filter_cons_of_pos hp]
        rfl
      · have hsame : a.take p = a := by rw [take, if_neg hp]
        rw [hsame, ih h, List.filter_cons_of_neg hp]

theorem rtpOffset_foldl (a : AudioSide) (ps : List AVPacket) :
    (ps.foldl take a).rtpOffset = a.rtpOffset := by
  induction ps generalizing a with
  | nil => rfl
  | cons p ps ih =>
      rw [List.foldl_cons, ih]
      unfold take
      split <;> rfl

/-- The same with these packets in front of the queue. -/
def behind (l : List AudioPacket) (a : AudioSide) : AudioSide := { a with queue := l ++ a.queue }

theorem behind_take (l : List AudioPacket) (a : AudioSide) (p : AVPacket) :
    (a.behind l).take p = (a.take p).behind l := by
  have hsame : (a.behind l).isAudio p = a.isAudio p := rfl
  unfold take
  rw [hsame]
  split
  · simp only [behind, List.append_assoc]
    rfl
  · rfl

theorem behind_foldl (l : List AudioPacket) (a : AudioSide) (ps : List AVPacket) :
    ps.foldl take (a.behind l) = (ps.foldl take a).behind l := by
  induction ps generalizing a with
  | nil => rfl
  | cons p ps ih => rw [List.foldl_cons, List.foldl_cons, behind_take, ih]

end AudioSide

theorem audioSide_otherPacket {p : AVPacket} {m : MediaSource D B}
    (hvideo : p.streamIndex ≠ m.videoIdx) :
    (m.otherPacket p).audioSide = m.audioSide.take p := by
  unfold otherPacket AudioSide.take
  by_cases haudio : 0 ≤ m.audioIdx ∧ p.streamIndex = m.audioIdx
  · have hp : m.audioSide.isAudio p = true := decide_eq_true ⟨hvideo, haudio⟩
    rw [if_pos haudio, if_pos hp]
    rfl
  · have hp : ¬ m.audioSide.isAudio p = true := fun h => haudio (of_decide_eq_true h).2
    rw [if_neg haudio, if_neg hp]

theorem take_video {p : AVPacket} {m : MediaSource D B} (hvideo : p.streamIndex = m.videoIdx) :
    m.audioSide.take p = m.audioSide := by
  have hp : ¬ m.audioSide.isAudio p = true := fun h => (of_decide_eq_true h).1 hvideo
  rw [AudioSide.take, if_neg hp]

/-! ## What a read takes from the demuxer -/

variable [FFmpeg D B]

open FFmpeg

/-- The packet that a round takes from the container when it gets there. -/
def containerReads (m : MediaSource D B) : List AVPacket := (readFrame B m.fmtCtx).1.toList

/-- The packet that a round of `readPacket` takes from the demuxer, if any. -/
def roundReads (m : MediaSource D B) : List AVPacket :=
  match m.bsfCtx with
  | none => m.containerReads
  | some b =>
      match (bsfReceive D b).1 with
      | .eagain => if m.bsfAtEof then [] else m.containerReads
      | _ => []

def loopReads : Nat → MediaSource D B → List AVPacket
  | 0, _ => []
  | fuel + 1, m =>
      m.roundReads ++
        match m.readRound with
        | (some _, _) => []
        | (none, m) => loopReads fuel m

/-- The packets that `readPacket` takes from the demuxer. -/
def packetReads (m : MediaSource D B) : List AVPacket :=
  match m.prefetchVp with
  | some _ => []
  | none => m.loopReads (remaining B m.fmtCtx + 2)

theorem roundReads_direct {m : MediaSource D B} (hb : m.bsfCtx = none) :
    m.roundReads = m.containerReads := by
  simp only [roundReads, hb]

theorem roundReads_packet {m : MediaSource D B} {b b' : B} {p : AVPacket}
    (hb : m.bsfCtx = some b) (hrec : bsfReceive D b = (.packet p, b')) : m.roundReads = [] := by
  simp only [roundReads, hb, hrec]

theorem roundReads_stop {m : MediaSource D B} {b b' : B} {res : BsfResult}
    (hb : m.bsfCtx = some b) (hrec : bsfReceive D b = (res, b'))
    (hres : res = .eof ∨ res = .error ∨ (res = .eagain ∧ m.bsfAtEof = true)) :
    m.roundReads = [] := by
  simp only [roundReads, hb, hrec]
  rcases hres with rfl | rfl | ⟨rfl, heof⟩
  · rfl
  · rfl
  · exact if_pos heof

theorem roundReads_feed {m : MediaSource D B} {b b' : B} (hb : m.bsfCtx = some b)
    (hrec : bsfReceive D b = (.eagain, b')) (heof : m.bsfAtEof = false) :
    m.roundReads = m.containerReads := by
  simp only [roundReads, hb, hrec, heof, Bool.false_eq_true, if_false]

theorem ContainerRead.audioSide {m m' : MediaSource D B} {r : Option (Option VideoPacket)}
    (h : ContainerRead m r m') :
    m'.audioSide = m.containerReads.foldl AudioSide.take m.audioSide := by
  unfold containerReads
  cases h with
  | eof hread | flush hread =>
      rw [hread]
      rfl
  | @other d p hread hp =>
      rw [hread]
      exact audioSide_otherPacket (m := { m with fmtCtx := d }) hp
  | frame hread hp | sent hread hp | refused hread hp =>
      rw [hread]
      exact (take_video hp).symm

theorem RoundRead.audioSide {m m' : MediaSource D B} {r : Option (Option VideoPacket)}
    (h : RoundRead m r m') :
    m'.audioSide = m.roundReads.foldl AudioSide.take m.audioSide := by
  cases h with
  | direct hb h =>
      rw [roundReads_direct hb]
      exact h.audioSide
  | packet hb hrec =>
      rw [roundReads_packet hb hrec]
      rfl
  | stop hb hrec hres =>
      rw [roundReads_stop hb hrec hres]
      rfl
  | feed hb hrec heof h =>
      rw [roundReads_feed hb hrec heof]
      exact h.audioSide

/-- The loop of `readPacket` queues the audio of what it takes. -/
theorem audioSide_readLoop (fuel : Nat) (m : MediaSource D B) :
    (readLoop fuel m).2.audioSide = (loopReads fuel m).foldl AudioSide.take m.audioSide := by
  induction fuel generalizing m with
  | zero => rfl
  | succ fuel ih =>
      have hround := (readRound_cases m).audioSide
      obtain ⟨r, m', heq⟩ : ∃ r m', m.readRound = (r, m') := ⟨_, _, rfl⟩
      rw [heq] at hround
      cases r with
      | some r =>
          simp only [readLoop, loopReads, heq, List.append_nil]
          exact hround
      | none =>
          simp only [readLoop, loopReads, heq, List.foldl_append]
          rw [← hround]
          exact ih m'

/-- The filter was flushed, and since then it was only sent packets that meet `S`. -/
inductive FedSince (D : Type) {B : Type} [FFmpeg D B] (S : AVPacket → Prop) : B → Prop where
  | flushed (b : B) : FedSince D S (bsfFlush D b)
  | sent {b : B} {p : AVPacket} (h : FedSince D S b) (hp : S p) :
      FedSince D S (bsfSend D (some p) b).2
  | ended {b : B} (h : FedSince D S b) : FedSince D S (bsfSend D none b).2
  | received {b : B} (h : FedSince D S b) : FedSince D S (bsfReceive D b).2

/-- What the filter gives out was made from a packet that it was sent since it was flushed:
    `made p q` says that `q` is the filtered `p`. -/
def DropsOnFlush (D B : Type) [FFmpeg D B] (made : AVPacket → AVPacket → Prop) : Prop :=
  ∀ (S : AVPacket → Prop) (b : B) (q : AVPacket) (b' : B), FedSince D S b →
    bsfReceive D b = (.packet q, b') → ∃ p, S p ∧ made p q

/-- The filter of the source, if it has one, was fed since its last flush with such packets. -/
def Fed (S : AVPacket → Prop) (m : MediaSource D B) : Prop :=
  ∀ b, m.bsfCtx = some b → FedSince D S b

/-- The frame is the packet, or what the filter made of it. -/
def FrameOf (made : AVPacket → AVPacket → Prop) (m : MediaSource D B) (p : AVPacket)
    (vp : VideoPacket) : Prop :=
  (m.bsfCtx = none ∧ vp.pktData = p) ∨ (m.bsfCtx.isSome = true ∧ made p vp.pktData)

/-- A part of a read takes the packets `ps` from the demuxer, with the result `r`: `none` when
    the read goes on. -/
structure Takes (made : AVPacket → AVPacket → Prop) (m : MediaSource D B) (ps : List AVPacket)
    (r : Option (Option VideoPacket)) (m' : MediaSource D B) : Prop where
  audio : m'.audioSide = ps.foldl AudioSide.take m.audioSide
  filter : m'.bsfCtx.isSome = m.bsfCtx.isSome
  fed : ∀ S, Fed S m → (∀ p ∈ ps, S p) → Fed S m'
  frame : ∀ S vp, Fed S m → (∀ p ∈ ps, S p) → r = some (some vp) → ∃ p, S p ∧ FrameOf made m p vp
  clock : m.firstPts = avNoPtsValue → ∀ vp, r = some (some vp) → vp.rtpTimestamp = m.rtpOffset
  goesOn : r = none → m'.firstPts = m.firstPts ∧ m'.rtpOffset = m.rtpOffset

/-- A part of a read that gives no frame and leaves the clocks alone. -/
theorem Takes.of_silent {made : AVPacket → AVPacket → Prop} {m m' : MediaSource D B}
    {ps : List AVPacket} {r : Option (Option VideoPacket)} (hr : r = none ∨ r = some none)
    (haudio : m'.audioSide = ps.foldl AudioSide.take m.audioSide)
    (hfilter : m'.bsfCtx.isSome = m.bsfCtx.isSome)
    (hfed : ∀ S, Fed S m → (∀ p ∈ ps, S p) → Fed S m')
    (hclock : m'.firstPts = m.firstPts ∧ m'.rtpOffset = m.rtpOffset) : Takes made m ps r m' := by
  have hno : ∀ vp, r ≠ some (some vp) := by
    intro vp h
    rcases hr with hr | hr <;> rw [hr] at h <;> cases h
  exact ⟨haudio, hfilter, hfed, fun _ vp _ _ h => absurd h (hno vp),
    fun _ vp h => absurd h (hno vp), fun _ => hclock⟩

theorem Takes.trans {made : AVPacket → AVPacket → Prop} {m m' m'' : MediaSource D B}
    {ps ps' : List AVPacket} {r : Option (Option VideoPacket)} (h : Takes made m ps none m')
    (h' : Takes made m' ps' r m'') : Takes made m (ps ++ ps') r m'' := by
  obtain ⟨hfirst, hoffset⟩ := h.goesOn rfl
  refine ⟨?_, h'.filter.trans h.filter, fun S hfed hps => ?_, fun S vp hfed hps hr => ?_,
    fun hm vp hr => ?_, fun hr => ?_⟩
  · rw [h'.audio, h.audio, List.foldl_append]
  · obtain ⟨hps, hps'⟩ := List.forall_mem_append.mp hps
    exact h'.fed S (h.fed S hfed hps) hps'
  · obtain ⟨hps, hps'⟩ := List.forall_mem_append.mp hps
    obtain ⟨p, hp, hof⟩ := h'.frame S vp (h.fed S hfed hps) hps' hr
    refine ⟨p, hp, ?_⟩
    rcases hof with ⟨hnone, heq⟩ | ⟨hsome, hmade⟩
    · have := h.filter
      rw [hnone] at this
      exact .inl ⟨Option.isSome_eq_false_iff.mp this.symm |> Option.isNone_iff_eq_none.mp, heq⟩
    · exact .inr ⟨h.filter.symm.trans hsome, hmade⟩
  · rw [← hoffset]
    exact h'.clock (hfirst.trans hm) vp hr
  · obtain ⟨hfirst', hoffset'⟩ := h'.goesOn hr
    exact ⟨hfirst'.trans hfirst, hoffset'.trans hoffset⟩

omit [FFmpeg D B] in
/-- The first frame since the clock was reset is at the offset. -/
theorem processPacket_first {p : AVPacket} {m : MediaSource D B}
    (h : m.firstPts = avNoPtsValue) : (m.processPacket p).1.rtpTimestamp = m.rtpOffset := by
  simp only [processPacket, if_pos h, toRTPTimestamp, Int.sub_self, avRescaleQ_zero,
    toUInt32_zero, UInt32.zero_add]

omit [FFmpeg D B] in
theorem otherPacket_same (p : AVPacket) (m : MediaSource D B) :
    (m.otherPacket p).fmtCtx = m.fmtCtx ∧ (m.otherPacket p).bsfCtx = m.bsfCtx ∧
      (m.otherPacket p).videoIdx = m.videoIdx := by
  unfold otherPacket
  split <;> exact ⟨rfl, rfl, rfl⟩

theorem fed_sent {S : AVPacket → Prop} {m m' : MediaSource D B} {b b' : B} {p : AVPacket}
    {ok : Bool} (hfed : Fed S m) (hb : m.bsfCtx = some b) (hsend : bsfSend D (some p) b = (ok, b'))
    (hp : ∀ q ∈ [p], S q) (hb' : m'.bsfCtx = some b') : Fed S m' := by
  intro b'' hb''
  obtain rfl := Option.some.inj (hb'.symm.trans hb'')
  rw [show b' = (bsfSend D (some p) b).2 from (congrArg Prod.snd hsend).symm]
  exact (hfed b hb).sent (hp p List.mem_cons_self)

theorem fed_received {S : AVPacket → Prop} {m m' : MediaSource D B} {b b' : B} {res : BsfResult}
    (hfed : Fed S m) (hb : m.bsfCtx = some b) (hrec : bsfReceive D b = (res, b'))
    (hb' : m'.bsfCtx = some b') : Fed S m' := by
  intro b'' hb''
  obtain rfl := Option.some.inj (hb'.symm.trans hb'')
  rw [show b' = (bsfReceive D b).2 from (congrArg Prod.snd hrec).symm]
  exact (hfed b hb).received

theorem ContainerRead.takes (made : AVPacket → AVPacket → Prop) {m m' : MediaSource D B}
    {r : Option (Option VideoPacket)} (h : ContainerRead m r m') :
    Takes made m m.containerReads r m' := by
  have haudio := h.audioSide
  unfold containerReads at haudio ⊢
  cases h with
  | eof => exact .of_silent (.inr rfl) haudio rfl (fun _ hfed _ => hfed) ⟨rfl, rfl⟩
  | @flush d b _ hb =>
      refine .of_silent (.inl rfl) haudio (by rw [hb]; rfl) (fun S hfed _ b' hb' => ?_) ⟨rfl, rfl⟩
      obtain rfl := Option.some.inj hb'
      exact (hfed b hb).ended
  | @other d p =>
      obtain ⟨-, hb, -⟩ := otherPacket_same p { m with fmtCtx := d }
      refine .of_silent (.inl rfl) haudio (congrArg Option.isSome hb) (fun S hfed _ => ?_) ?_
      · intro b hb'
        exact hfed b (hb.symm.trans hb')
      · unfold otherPacket
        split <;> exact ⟨rfl, rfl⟩
  | @frame d p hread _ hb =>
      rw [hread] at haudio ⊢
      refine ⟨haudio, rfl, fun _ hfed _ => hfed, fun S vp _ hps hr => ?_, fun hm vp hr => ?_,
        fun hr => by cases hr⟩
      · obtain rfl := Option.some.inj (Option.some.inj hr)
        exact ⟨p, hps p List.mem_cons_self, .inl ⟨hb, rfl⟩⟩
      · obtain rfl := Option.some.inj (Option.some.inj hr)
        exact processPacket_first (m := { m with fmtCtx := d }) hm
  | sent hread _ hb hsend =>
      rw [hread] at haudio ⊢
      exact .of_silent (.inl rfl) haudio (by rw [hb]; rfl)
        (fun S hfed hps => fed_sent hfed hb hsend hps rfl) ⟨rfl, rfl⟩
  | refused hread _ hb hsend =>
      rw [hread] at haudio ⊢
      exact .of_silent (.inr rfl) haudio (by rw [hb]; rfl)
        (fun S hfed hps => fed_sent hfed hb hsend hps rfl) ⟨rfl, rfl⟩

theorem RoundRead.takes {made : AVPacket → AVPacket → Prop} (hdrop : DropsOnFlush D B made)
    {m m' : MediaSource D B} {r : Option (Option VideoPacket)} (h : RoundRead m r m') :
    Takes made m m.roundReads r m' := by
  cases h with
  | direct hb h =>
      rw [roundReads_direct hb]
      exact h.takes made
  | @packet b b' p hb hrec =>
      rw [roundReads_packet hb hrec]
      refine ⟨rfl, by rw [hb]; rfl, fun S hfed _ => fed_received hfed hb hrec rfl,
        fun S vp hfed _ hr => ?_, fun hm vp hr => ?_, fun hr => by cases hr⟩
      · obtain rfl := Option.some.inj (Option.some.inj hr)
        obtain ⟨q, hq, hmade⟩ := hdrop S b p b' (hfed b hb) hrec
        exact ⟨q, hq, .inr ⟨by rw [hb]; rfl, hmade⟩⟩
      · obtain rfl := Option.some.inj (Option.some.inj hr)
        exact processPacket_first (m := { m with bsfCtx := some b' }) hm
  | stop hb hrec hres =>
      rw [roundReads_stop hb hrec hres]
      exact .of_silent (.inr rfl) rfl (by rw [hb]; rfl)
        (fun S hfed _ => fed_received hfed hb hrec rfl) ⟨rfl, rfl⟩
  | @feed b b' _ _ hb hrec heof h =>
      rw [roundReads_feed hb hrec heof]
      have hreceived : Takes made m [] none { m with bsfCtx := some b' } :=
        .of_silent (.inl rfl) rfl (by rw [hb]; rfl)
          (fun S hfed _ => fed_received hfed hb hrec rfl) ⟨rfl, rfl⟩
      exact hreceived.trans (h.takes made)

/-- The loop of `readPacket`. -/
theorem takes_readLoop {made : AVPacket → AVPacket → Prop} (hdrop : DropsOnFlush D B made)
    (fuel : Nat) (m : MediaSource D B) :
    Takes made m (loopReads fuel m) (some (readLoop fuel m).1) (readLoop fuel m).2 := by
  induction fuel generalizing m with
  | zero => exact .of_silent (.inr rfl) rfl rfl (fun _ hfed _ => hfed) ⟨rfl, rfl⟩
  | succ fuel ih =>
      have hround := (readRound_cases m).takes hdrop
      obtain ⟨r, m', heq⟩ : ∃ r m', m.readRound = (r, m') := ⟨_, _, rfl⟩
      rw [heq] at hround
      cases r with
      | some r =>
          simp only [readLoop, loopReads, heq, List.append_nil]
          exact hround
      | none =>
          simp only [readLoop, loopReads, heq]
          exact hround.trans (ih m')

/-- The next video packet of the demuxer is `p`, behind the packets `qs` of other streams. -/
def NextVideo (B : Type) [FFmpeg D B] (videoIdx : Int) : D → List AVPacket → AVPacket → Prop
  | d, [], p => p.streamIndex = videoIdx ∧ ∃ d', readFrame B d = (some p, d')
  | d, q :: qs, p => q.streamIndex ≠ videoIdx ∧
      ∃ d', readFrame B d = (some q, d') ∧ NextVideo B videoIdx d' qs p

/-- Without a filter the loop of `readPacket` gets to the next video packet. -/
theorem readLoop_next {p : AVPacket} (qs : List AVPacket) {fuel : Nat} {m : MediaSource D B}
    (hb : m.bsfCtx = none) (h : NextVideo B m.videoIdx m.fmtCtx qs p) (hfuel : qs.length < fuel) :
    ∃ vp, (readLoop fuel m).1 = some vp ∧ vp.pktData = p := by
  induction qs generalizing fuel m with
  | nil =>
      obtain ⟨hvideo, d', hread⟩ := h
      obtain ⟨fuel, rfl⟩ : ∃ n, fuel = n + 1 := Nat.exists_eq_succ_of_ne_zero (by omega)
      refine ⟨({ m with fmtCtx := d' }.processPacket p).1, ?_, rfl⟩
      simp only [readLoop, readRound, readContainer, hb, hread, hvideo, ne_eq, not_true_eq_false,
        if_false]
  | cons q qs ih =>
      obtain ⟨hother, d', hread, hnext⟩ := h
      obtain ⟨fuel, rfl⟩ : ∃ n, fuel = n + 1 := Nat.exists_eq_succ_of_ne_zero (by omega)
      have hround : m.readRound = (none, { m with fmtCtx := d' }.otherPacket q) := by
        simp only [readRound, readContainer, hb, hread, ne_eq, hother, not_false_eq_true, if_true]
      obtain ⟨hd, hb', hidx⟩ := otherPacket_same q { m with fmtCtx := d' }
      rw [readLoop, hround]
      refine ih (hb'.trans hb) ?_ (Nat.lt_of_succ_lt_succ hfuel)
      rw [hd, hidx]
      exact hnext

/-- The packets up to the next video packet are in the file. -/
theorem length_lt_remaining {videoIdx : Int} {d : D} {qs : List AVPacket} {p : AVPacket}
    (h : NextVideo B videoIdx d qs p) : qs.length < remaining B d := by
  induction qs generalizing d with
  | nil =>
      obtain ⟨-, d', hread⟩ := h
      exact Nat.zero_lt_of_lt (remaining_lt d p d' hread)
  | cons q qs ih =>
      obtain ⟨-, d', hread, hnext⟩ := h
      have := ih hnext
      have := remaining_lt d q d' hread
      simp only [List.length_cons]
      omega

/-- Reads of a source from `m` to `m'`: they take the packets `ps` from the demuxer and return
    the audio packets `aps`. -/
inductive Pulls (m : MediaSource D B) :
    List AVPacket → List AudioPacket → MediaSource D B → Prop where
  | refl : Pulls m [] [] m
  | read {ps : List AVPacket} {aps : List AudioPacket} {m' : MediaSource D B}
      (h : Pulls m ps aps m') : Pulls m (ps ++ m'.packetReads) aps m'.readPacket.2
  | peek {ps : List AVPacket} {aps : List AudioPacket} {m' : MediaSource D B}
      (h : Pulls m ps aps m') : Pulls m (ps ++ m'.packetReads) aps m'.peekNextVideoRTPTimestamp.2
  | audio {ps : List AVPacket} {aps : List AudioPacket} {m' m'' : MediaSource D B}
      {ap : AudioPacket} (h : Pulls m ps aps m') (hread : m'.readAudioPacket = (some ap, m'')) :
      Pulls m ps (aps ++ [ap]) m''

theorem packetReads_none {m : MediaSource D B} (h : m.prefetchVp = none) :
    m.packetReads = loopReads (remaining B m.fmtCtx + 2) m := by
  unfold packetReads
  rw [h]

theorem audioSide_readPacket (m : MediaSource D B) :
    m.readPacket.2.audioSide = m.packetReads.foldl AudioSide.take m.audioSide := by
  cases hvp : m.prefetchVp with
  | none =>
      rw [packetReads_none hvp, readPacket_of_none hvp]
      exact audioSide_readLoop _ m
  | some vp =>
      simp only [readPacket, packetReads, hvp]
      rfl

theorem audioSide_peek (m : MediaSource D B) :
    m.peekNextVideoRTPTimestamp.2.audioSide = m.packetReads.foldl AudioSide.take m.audioSide := by
  have hread := audioSide_readPacket m
  unfold peekNextVideoRTPTimestamp
  split
  · next vp hvp => simp only [packetReads, hvp, List.foldl_nil]
  · split
    · next m' heq =>
        rw [heq] at hread
        exact hread
    · next vp m' heq =>
        rw [heq] at hread
        exact hread

/-- What was returned and what is queued is the audio of the packets that were demuxed. -/
theorem audioSide_pulls {m m' : MediaSource D B} {ps : List AVPacket} {aps : List AudioPacket}
    (h : Pulls m ps aps m') :
    m'.audioSide.behind aps = ps.foldl AudioSide.take m.audioSide := by
  induction h with
  | refl => rfl
  | read _ ih => rw [audioSide_readPacket, ← AudioSide.behind_foldl, ih, List.foldl_append]
  | peek _ ih => rw [audioSide_peek, ← AudioSide.behind_foldl, ih, List.foldl_append]
  | @audio ps aps m' m'' ap _ hread ih =>
      obtain ⟨hq, hm⟩ := readAudioPacket_some hread
      rw [← ih, hm]
      simp only [AudioSide.behind, audioSide, hq, List.append_assoc, List.singleton_append]

end MediaSource

end RtspServer
