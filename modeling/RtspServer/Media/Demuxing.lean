/-
  What `readPacket` and `readAudioPacket` make of a file: every video packet is returned once, in
  the order of the file, and every audio packet is queued once, in that order. With a bitstream
  filter this rests on what `av_bsf_receive_packet` and `av_bsf_send_packet` promise of a filter
  that makes one packet of each (`QueueFilter`); it may hold back as many as it likes until it is
  sent the null packet. Allocations succeed.

  The invariant is `Left`: the packets of the file that are not demuxed yet, and with the
  filter's `held` ones the video packets that are to come.
-/
import Mathlib.Data.List.Forall2
import RtspServer.Media.Reading

namespace RtspServer

variable {D B : Type}

/-- A filter that is a queue: it makes one packet of each, in order. `held` are the packets it
    was sent and has not made anything of, `ended` says that it was sent the null packet. -/
structure QueueFilter (D B : Type) [FFmpeg D B] (made : AVPacket → AVPacket → Prop) where
  held : B → List AVPacket
  ended : B → Bool
  receive_packet : ∀ {b q b'}, FFmpeg.bsfReceive D b = (.packet q, b') →
    ended b' = ended b ∧ ∃ p, held b = p :: held b' ∧ made p q
  /-- it needs input, and accepts it -/
  receive_eagain : ∀ {b b'}, FFmpeg.bsfReceive D b = (.eagain, b') →
    ended b = false ∧ ended b' = false ∧ held b' = held b ∧
      ∀ p, ∃ b'', FFmpeg.bsfSend D (some p) b' = (true, b'') ∧ ended b'' = false ∧
        held b'' = held b' ++ [p]
  receive_eof : ∀ {b b'}, FFmpeg.bsfReceive D b = (.eof, b') →
    ended b = true ∧ ended b' = true ∧ held b = [] ∧ held b' = []
  receive_error : ∀ {b b' : B}, FFmpeg.bsfReceive D b ≠ (.error, b')
  send_null : ∀ b, ended (FFmpeg.bsfSend D none b).2 = true ∧
    held (FFmpeg.bsfSend D none b).2 = held b

/-- The demuxer gives out these packets and then meets the end of the file. -/
inductive Contents (B : Type) [FFmpeg D B] : D → List AVPacket → Prop where
  | eof {d d' : D} (h : FFmpeg.readFrame B d = (none, d')) : Contents B d []
  | packet {d d' : D} {p : AVPacket} {ps : List AVPacket}
      (h : FFmpeg.readFrame B d = (some p, d')) (rest : Contents B d' ps) : Contents B d (p :: ps)

/-- Every file has contents. -/
theorem exists_contents [FFmpeg D B] (d : D) : ∃ ps, Contents B d ps := by
  induction hn : FFmpeg.remaining B d using Nat.strong_induction_on generalizing d with
  | h n ih =>
      obtain ⟨r, d', hread⟩ : ∃ r d', FFmpeg.readFrame B d = (r, d') := ⟨_, _, rfl⟩
      cases r with
      | none => exact ⟨[], .eof hread⟩
      | some p =>
          have hlt := FFmpeg.remaining_lt d p d' hread
          obtain ⟨ps, hps⟩ := ih _ (hn ▸ hlt) d' rfl
          exact ⟨p :: ps, .packet hread hps⟩

namespace MediaSource

variable [FFmpeg D B]

open FFmpeg

/-! ## The loop returns -/

/-- The `while (true)` loop of `readPacket`, from a source, returns. -/
inductive Loops : MediaSource D B → Option VideoPacket → MediaSource D B → Prop where
  | returns {m m' : MediaSource D B} {r : Option VideoPacket} (h : m.readRound = (some r, m')) :
      Loops m r m'
  | goesOn {m n m' : MediaSource D B} {r : Option VideoPacket} (h : m.readRound = (none, n))
      (rest : Loops n r m') : Loops m r m'

omit [FFmpeg D B] in
theorem bsfAtEof_otherPacket (p : AVPacket) (m : MediaSource D B) :
    (m.otherPacket p).bsfAtEof = m.bsfAtEof := by
  unfold otherPacket
  split <;> rfl

/-- The rounds that can still go on: one for each packet of the file, and one for its end. -/
def roundsLeft (m : MediaSource D B) : Nat :=
  if m.bsfCtx.isSome ∧ m.bsfAtEof then 0 else remaining B m.fmtCtx + 1

theorem roundsLeft_le (m : MediaSource D B) : m.roundsLeft ≤ remaining B m.fmtCtx + 1 := by
  unfold roundsLeft
  split
  · exact Nat.zero_le _
  · exact Nat.le_refl _

theorem ContainerRead.roundsLeft_lt {m m' : MediaSource D B} (h : ContainerRead m none m')
    (hmore : ¬ (m.bsfCtx.isSome ∧ m.bsfAtEof)) : m'.roundsLeft < m.roundsLeft := by
  have hleft : m.roundsLeft = remaining B m.fmtCtx + 1 := if_neg hmore
  have hfile : ∀ p d, readFrame B m.fmtCtx = (some p, d) → m'.fmtCtx = d →
      m'.roundsLeft < m.roundsLeft := by
    intro p d hread hd
    have hlt := remaining_lt m.fmtCtx p d hread
    have hle := m'.roundsLeft_le
    rw [hd] at hle
    omega
  cases h with
  | flush hread hb =>
      rw [hleft, roundsLeft, if_pos ⟨rfl, rfl⟩]
      exact Nat.succ_pos _
  | @other d p hread => exact hfile p d hread (otherPacket_same p _).1
  | sent hread => exact hfile _ _ hread rfl

/-- A round that goes on leaves fewer. -/
theorem RoundRead.roundsLeft_lt {m m' : MediaSource D B} (h : RoundRead m none m') :
    m'.roundsLeft < m.roundsLeft := by
  cases h with
  | direct hb h =>
      refine h.roundsLeft_lt fun hend => ?_
      rw [hb] at hend
      cases hend.1
  | feed hb _ heof h =>
      have hlt := h.roundsLeft_lt fun hend => by
        rw [heof] at hend
        cases hend.2
      simpa [roundsLeft, hb] using hlt

theorem readRound_lt {m m' : MediaSource D B} (h : m.readRound = (none, m')) :
    m'.roundsLeft < m.roundsLeft := by
  have hround := readRound_cases m
  rw [h] at hround
  exact hround.roundsLeft_lt

theorem loops_readLoop {fuel : Nat} {m : MediaSource D B} (h : m.roundsLeft < fuel) :
    Loops m (readLoop fuel m).1 (readLoop fuel m).2 := by
  induction fuel generalizing m with
  | zero => exact absurd h (Nat.not_lt_zero _)
  | succ fuel ih =>
      obtain ⟨r, m', heq⟩ : ∃ r m', m.readRound = (r, m') := ⟨_, _, rfl⟩
      rw [readLoop, heq]
      cases r with
      | some r => exact .returns heq
      | none =>
          have hlt := readRound_lt heq
          exact .goesOn heq (ih (by omega))

/-- `readPacket` returns, and its result is that of the loop. -/
theorem loops_readPacket {m : MediaSource D B} (h : m.prefetchVp = none) :
    Loops m m.readPacket.1 m.readPacket.2 := by
  rw [readPacket_of_none h]
  exact loops_readLoop (Nat.lt_succ_of_le m.roundsLeft_le)

/-! ## One round -/

/-- The packet is of the video stream. -/
def isVideo (m : MediaSource D B) (p : AVPacket) : Bool := p.streamIndex = m.videoIdx

variable {made : AVPacket → AVPacket → Prop} (F : QueueFilter D B made)

/-- What the filter of the source holds back. -/
def held (m : MediaSource D B) : List AVPacket := m.bsfCtx.elim [] F.held

/-- The packets of the file that are not demuxed yet, nothing being prefetched. -/
structure Left (m : MediaSource D B) (ps : List AVPacket) : Prop where
  prefetchVp : m.prefetchVp = none
  filter : ∀ b, m.bsfCtx = some b → F.ended b = m.bsfAtEof
  file : m.bsfAtEof = false → Contents B m.fmtCtx ps
  atEof : m.bsfAtEof = true → m.bsfCtx.isSome = true ∧ ps = []

/-- The video packets to come. -/
def toCome (m : MediaSource D B) (ps : List AVPacket) : List AVPacket :=
  m.held F ++ ps.filter m.isVideo

/-- The source still reads the same streams, with a filter or without one. -/
structure SameStreams (m m' : MediaSource D B) : Prop where
  videoIdx : m'.videoIdx = m.videoIdx
  filter : m'.bsfCtx.isSome = m.bsfCtx.isSome

/-- A part of a read, with its result (`none` when the loop goes on): from `ps` to `ps'`. -/
inductive Advances (m : MediaSource D B) (ps : List AVPacket) :
    Option (Option VideoPacket) → MediaSource D B → List AVPacket → Prop where
  | goesOn {m' : MediaSource D B} {ps' : List AVPacket} (left : Left F m' ps')
      (streams : SameStreams m m') (same : m'.toCome F ps' = m.toCome F ps) :
      Advances m ps none m' ps'
  | frame {m' : MediaSource D B} {ps' : List AVPacket} {p : AVPacket} {vp : VideoPacket}
      (left : Left F m' ps') (streams : SameStreams m m')
      (next : m.toCome F ps = p :: m'.toCome F ps') (made : FrameOf made m p vp) :
      Advances m ps (some (some vp)) m' ps'
  | stops {m' : MediaSource D B} (done : m.toCome F ps = []) : Advances m ps (some none) m' []

omit [FFmpeg D B] in
theorem SameStreams.refl (m : MediaSource D B) : SameStreams m m := ⟨rfl, rfl⟩

omit [FFmpeg D B] in
theorem SameStreams.of_some {m m' : MediaSource D B} {b b' : B} (hb : m.bsfCtx = some b)
    (hb' : m'.bsfCtx = some b') (hidx : m'.videoIdx = m.videoIdx) : SameStreams m m' :=
  ⟨hidx, by rw [hb, hb']; rfl⟩

omit [FFmpeg D B] in
theorem SameStreams.trans {m n k : MediaSource D B} (h : SameStreams m n)
    (h' : SameStreams n k) : SameStreams m k :=
  ⟨h'.videoIdx.trans h.videoIdx, h'.filter.trans h.filter⟩

omit [FFmpeg D B] in
theorem FrameOf.same {m m' : MediaSource D B} {p : AVPacket} {vp : VideoPacket}
    (h : FrameOf made m' p vp) (hs : SameStreams m m') : FrameOf made m p vp := by
  rcases h with ⟨hnone, heq⟩ | ⟨hsome, hmade⟩
  · have hfilter := hs.filter
    rw [hnone] at hfilter
    refine .inl ⟨?_, heq⟩
    rw [← Option.isNone_iff_eq_none, ← Option.not_isSome, ← hfilter]
    rfl
  · exact .inr ⟨hs.filter.symm.trans hsome, hmade⟩

theorem Advances.after {m n m' : MediaSource D B} {ps qs ps' : List AVPacket}
    {r : Option (Option VideoPacket)} (h : Advances F n qs r m' ps')
    (hstreams : SameStreams m n) (hsame : n.toCome F qs = m.toCome F ps) :
    Advances F m ps r m' ps' := by
  cases h with
  | goesOn left streams same => exact .goesOn left (hstreams.trans streams) (same.trans hsame)
  | frame left streams next made =>
      exact .frame left (hstreams.trans streams) (hsame.symm.trans next) (made.same hstreams)
  | stops done => exact .stops (hsame.symm.trans done)

theorem toCome_congr {m m' : MediaSource D B} (hheld : m'.held F = m.held F)
    (hidx : m'.videoIdx = m.videoIdx) (ps : List AVPacket) : m'.toCome F ps = m.toCome F ps := by
  have hvideo : m'.isVideo = m.isVideo := by
    funext p
    rw [isVideo, isVideo, hidx]
  rw [toCome, toCome, hheld, hvideo]

theorem toCome_other {m : MediaSource D B} {p : AVPacket} (hp : p.streamIndex ≠ m.videoIdx)
    (ps : List AVPacket) : m.toCome F (p :: ps) = m.toCome F ps := by
  unfold toCome
  rw [List.filter_cons_of_neg]
  simpa [isVideo] using hp

theorem toCome_video {m : MediaSource D B} {p : AVPacket} (hp : p.streamIndex = m.videoIdx)
    (ps : List AVPacket) : m.toCome F (p :: ps) = m.held F ++ p :: ps.filter m.isVideo := by
  unfold toCome
  rw [List.filter_cons_of_pos]
  simpa [isVideo] using hp

/-- A packet of the file was read, and its end is still to come. -/
theorem Left.read {m m' : MediaSource D B} {ps qs : List AVPacket} (h : Left F m ps)
    (heof : m.bsfAtEof = false) (hslot : m'.prefetchVp = m.prefetchVp)
    (hsame : m'.bsfAtEof = m.bsfAtEof) (hfilter : ∀ b, m'.bsfCtx = some b → F.ended b = false)
    (hrest : Contents B m'.fmtCtx qs) : Left F m' qs := by
  refine ⟨hslot.trans h.prefetchVp, fun b hb => ?_, fun _ => hrest, fun htrue => ?_⟩
  · rw [hfilter b hb, hsame, heof]
  · rw [hsame, heof] at htrue
    cases htrue

/-- The second half of a round, in which the filter accepts what it is sent. -/
theorem ContainerRead.advances {m m' : MediaSource D B} {r : Option (Option VideoPacket)}
    (hread : ContainerRead m r m') {ps : List AVPacket} (h : Left F m ps)
    (heof : m.bsfAtEof = false)
    (haccepts : ∀ b, m.bsfCtx = some b → ∀ p, ∃ b', bsfSend D (some p) b = (true, b') ∧
      F.ended b' = false ∧ F.held b' = F.held b ++ [p]) :
    ∃ ps', ps = m.containerReads ++ ps' ∧ Advances F m ps r m' ps' := by
  -- the packets that are left are those of the file
  have hfile := h.file heof
  have hnone : ∀ {d}, readFrame B m.fmtCtx = (none, d) → ps = [] ∧ m.containerReads = [] := by
    intro d hread
    cases hfile with
    | eof _ => exact ⟨rfl, by rw [containerReads, hread]; rfl⟩
    | packet hread' _ => cases (Prod.mk.inj (hread.symm.trans hread')).1
  have hsome : ∀ {p d}, readFrame B m.fmtCtx = (some p, d) →
      ∃ qs, ps = p :: qs ∧ Contents B d qs ∧ ps = m.containerReads ++ qs := by
    intro p d hread
    cases hfile with
    | eof hread' => cases (Prod.mk.inj (hread.symm.trans hread')).1
    | packet hread' rest =>
        obtain ⟨hp, rfl⟩ := Prod.mk.inj (hread.symm.trans hread')
        obtain rfl := Option.some.inj hp
        exact ⟨_, rfl, rest, by rw [containerReads, hread]; rfl⟩
  cases hread with
  | eof hread hb =>
      obtain ⟨rfl, hreads⟩ := hnone hread
      exact ⟨[], by rw [hreads]; rfl, .stops (by rw [toCome, held, hb]; rfl)⟩
  | @flush d b hread hb =>
      obtain ⟨rfl, hreads⟩ := hnone hread
      obtain ⟨hended, hheld⟩ := F.send_null b
      refine ⟨[], by rw [hreads]; rfl,
        .goesOn ⟨h.prefetchVp, ?_, fun hfalse => ?_, fun _ => ⟨rfl, rfl⟩⟩
          (.of_some hb rfl rfl) ?_⟩
      · intro b' hb'
        obtain rfl := Option.some.inj hb'
        exact hended
      · cases hfalse
      · simp only [toCome, held, hb, Option.elim_some, hheld, List.filter_nil]
  | @other d p hread hp =>
      obtain ⟨qs, rfl, rest, hreads⟩ := hsome hread
      obtain ⟨hd, hb, hidx⟩ := otherPacket_same p { m with fmtCtx := d }
      refine ⟨qs, hreads, .goesOn (h.read F heof (otherPacket_keeps p _).prefetchVp
        (bsfAtEof_otherPacket p _) (fun b hb' => ?_) (hd ▸ rest)) ⟨hidx, by rw [hb]⟩ ?_⟩
      · exact (h.filter b (hb.symm.trans hb')).trans heof
      · rw [toCome_other F hp]
        exact toCome_congr F (by rw [held, hb]; rfl) hidx qs
  | @frame d p hread hp hb =>
      obtain ⟨qs, rfl, rest, hreads⟩ := hsome hread
      refine ⟨qs, hreads, .frame (p := p) (h.read F heof rfl rfl (fun b hb' => ?_) rest)
        ⟨rfl, rfl⟩ ?_ (.inl ⟨hb, rfl⟩)⟩
      · cases hb.symm.trans hb'
      · rw [toCome_video F hp, held, hb]
        simp only [toCome, held, processPacket]
        rfl
  | @sent d p b b' hread hp hb hsend =>
      obtain ⟨qs, rfl, rest, hreads⟩ := hsome hread
      obtain ⟨b'', hsend', hended, hheld⟩ := haccepts b hb p
      obtain ⟨-, rfl⟩ := Prod.mk.inj (hsend.symm.trans hsend')
      refine ⟨qs, hreads, .goesOn (h.read F heof rfl rfl (fun c hc => ?_) rest)
        (.of_some hb rfl rfl) ?_⟩
      · obtain rfl := Option.some.inj hc
        exact hended
      · rw [toCome_video F hp]
        simp only [toCome, held, hb, Option.elim_some, hheld, List.append_assoc,
          List.singleton_append]
        rfl
  | refused hread hp hb hsend =>
      obtain ⟨b'', hsend', -⟩ := haccepts _ hb _
      cases (Prod.mk.inj (hsend.symm.trans hsend')).1

/-- One round of `readPacket`. -/
theorem RoundRead.advances {m m' : MediaSource D B} {r : Option (Option VideoPacket)}
    (hround : RoundRead m r m') {ps : List AVPacket} (h : Left F m ps) :
    ∃ ps', ps = m.roundReads ++ ps' ∧ Advances F m ps r m' ps' := by
  -- what the filter still holds is what the source still holds
  have hleft : ∀ {b b'}, m.bsfCtx = some b → F.ended b' = F.ended b →
      Left F { m with bsfCtx := some b' } ps := by
    intro b b' hb hsame
    refine ⟨h.prefetchVp, fun c hc => ?_, h.file, fun htrue => ⟨rfl, (h.atEof htrue).2⟩⟩
    obtain rfl := Option.some.inj hc
    exact hsame.trans (h.filter b hb)
  cases hround with
  | direct hb hread =>
      have heof : m.bsfAtEof = false := by
        rw [← Bool.not_eq_true]
        intro htrue
        have hsome := (h.atEof htrue).1
        rw [hb] at hsome
        cases hsome
      rw [roundReads_direct hb]
      refine hread.advances F h heof fun b hb' => ?_
      cases hb.symm.trans hb'
  | @packet b b' q hb hrec =>
      obtain ⟨hsame, p, hheld, hmade⟩ := F.receive_packet hrec
      have hl := hleft hb hsame
      rw [roundReads_packet hb hrec]
      refine ⟨ps, rfl, .frame (p := p) ⟨hl.prefetchVp, hl.filter, hl.file, hl.atEof⟩
        (.of_some hb rfl rfl) ?_ (.inr ⟨congrArg Option.isSome hb, hmade⟩)⟩
      simp only [toCome, held, hb, Option.elim_some, hheld, List.cons_append]
      rfl
  | @stop b b' res hb hrec hres =>
      rw [roundReads_stop hb hrec hres]
      rcases hres with rfl | rfl | ⟨rfl, htrue⟩
      · obtain ⟨htrue, -, hheld, -⟩ := F.receive_eof hrec
        obtain ⟨-, rfl⟩ := h.atEof ((h.filter b hb).symm.trans htrue)
        exact ⟨[], rfl, .stops (by rw [toCome, held, hb, Option.elim_some, hheld]; rfl)⟩
      · exact absurd hrec F.receive_error
      · -- a filter that was flushed does not ask for more
        obtain ⟨hopen, -⟩ := F.receive_eagain hrec
        rw [← h.filter b hb, hopen] at htrue
        cases htrue
  | @feed b b' _ _ hb hrec heof hread =>
      obtain ⟨hopen, hopen', hheld, haccepts⟩ := F.receive_eagain hrec
      have hsame : held F { m with bsfCtx := some b' } = m.held F := by
        simp only [held, hb, Option.elim_some, hheld]
      rw [roundReads_feed hb hrec heof]
      obtain ⟨ps', hps, hadv⟩ := hread.advances F (hleft hb (hopen'.trans hopen.symm)) heof
        fun c hc p => by
          obtain rfl := Option.some.inj hc
          exact haccepts p
      exact ⟨ps', hps, hadv.after F (.of_some hb rfl rfl) (toCome_congr F hsame rfl ps)⟩

/-- The loop of `readPacket`. -/
theorem readLoop_advances {fuel : Nat} {m : MediaSource D B} {ps : List AVPacket}
    (h : Left F m ps) (hfuel : m.roundsLeft < fuel) :
    ∃ ps', ps = loopReads fuel m ++ ps' ∧
      Advances F m ps (some (readLoop fuel m).1) (readLoop fuel m).2 ps' := by
  induction fuel generalizing m ps with
  | zero => exact absurd hfuel (Nat.not_lt_zero _)
  | succ fuel ih =>
      obtain ⟨ps', hps, hround⟩ := (readRound_cases m).advances F h
      obtain ⟨r, m', heq⟩ : ∃ r m', m.readRound = (r, m') := ⟨_, _, rfl⟩
      rw [heq] at hround
      cases r with
      | some r =>
          simp only [readLoop, loopReads, heq, List.append_nil]
          exact ⟨ps', hps, hround⟩
      | none =>
          simp only [readLoop, loopReads, heq]
          have hlt := readRound_lt heq
          dsimp only at hround
          cases hround with
          | goesOn left streams same =>
              obtain ⟨ps'', hps', hloop⟩ := ih left (by omega)
              refine ⟨ps'', ?_, hloop.after F streams same⟩
              rw [hps, hps', List.append_assoc]

theorem readPacket_advances {m : MediaSource D B} {ps : List AVPacket} (h : Left F m ps) :
    ∃ ps', ps = m.packetReads ++ ps' ∧
      Advances F m ps (some m.readPacket.1) m.readPacket.2 ps' := by
  rw [packetReads_none h.prefetchVp, readPacket_of_none h.prefetchVp]
  exact readLoop_advances F h (Nat.lt_succ_of_le m.roundsLeft_le)

/-! ## Runs -/

/-- Calls of `readPacket` that return true and of `readAudioPacket`, in any order, with the
    packets they return. -/
inductive Calls (m : MediaSource D B) :
    List VideoPacket → List AudioPacket → MediaSource D B → Prop where
  | refl : Calls m [] [] m
  | read {vps : List VideoPacket} {aps : List AudioPacket} {m' m'' : MediaSource D B}
      {vp : VideoPacket} (h : Calls m vps aps m') (hread : m'.readPacket = (some vp, m'')) :
      Calls m (vps ++ [vp]) aps m''
  | audio {vps : List VideoPacket} {aps : List AudioPacket} {m' m'' : MediaSource D B}
      {ap : AudioPacket} (h : Calls m vps aps m') (hread : m'.readAudioPacket = (some ap, m'')) :
      Calls m vps (aps ++ [ap]) m''

/-- What such calls have done: of the packets `ps` of the file they demuxed all but `rest`. -/
structure Done (m : MediaSource D B) (ps : List AVPacket) (vps : List VideoPacket)
    (aps : List AudioPacket) (m' : MediaSource D B) (rest : List AVPacket) : Prop where
  left : Left F m' rest
  streams : SameStreams m m'
  video : ∃ ds, m.toCome F ps = ds ++ m'.toCome F rest ∧ List.Forall₂ (FrameOf made m) ds vps
  audio : ∃ qs, ps = qs ++ rest ∧
    m'.audioSide.behind aps = qs.foldl AudioSide.take m.audioSide

theorem Left.audioQueue {m : MediaSource D B} {ps : List AVPacket} (h : Left F m ps)
    (queue : List AudioPacket) : Left F { m with audioQueue := queue } ps :=
  ⟨h.prefetchVp, h.filter, h.file, h.atEof⟩

theorem Calls.done {m m' : MediaSource D B} {ps : List AVPacket} {vps : List VideoPacket}
    {aps : List AudioPacket} (hcalls : Calls m vps aps m') (h : Left F m ps) :
    ∃ rest, Done F m ps vps aps m' rest := by
  induction hcalls with
  | refl => exact ⟨ps, h, .refl m, ⟨[], rfl, .nil⟩, ⟨[], rfl, rfl⟩⟩
  | @read vps aps m' m'' vp _ hread ih =>
      obtain ⟨rest, hleft, hstreams, ⟨ds, hds, hframes⟩, qs, hps, haudio⟩ := ih
      obtain ⟨rest', hrest, hadv⟩ := readPacket_advances F hleft
      have hside := audioSide_readPacket m'
      rw [hread] at hadv hside
      cases hadv with
      | @frame _ _ p _ left streams next made =>
          refine ⟨rest', left, hstreams.trans streams, ⟨ds ++ [p], ?_, ?_⟩,
            qs ++ m'.packetReads, ?_, ?_⟩
          · rw [hds, next, List.append_assoc, List.singleton_append]
          · exact List.rel_append hframes (.cons (made.same hstreams) .nil)
          · rw [hps, hrest, List.append_assoc]
          · rw [hside, ← AudioSide.behind_foldl, haudio, List.foldl_append]
  | @audio vps aps m' m'' ap _ hread ih =>
      obtain ⟨rest, hleft, hstreams, hvideo, qs, hps, haudio⟩ := ih
      obtain ⟨hqueue, hm⟩ := readAudioPacket_some hread
      refine ⟨rest, ?_, ?_, ?_, qs, hps, ?_⟩
      · rw [hm]
        exact hleft.audioQueue F _
      · rw [hm]
        exact ⟨hstreams.videoIdx, hstreams.filter⟩
      · rw [hm]
        exact hvideo
      · rw [← haudio, hm]
        simp only [AudioSide.behind, audioSide, hqueue, List.append_assoc, List.singleton_append]

/-- Calling `readPacket` on and on, it returns false at some time. -/
theorem Calls.ends {m m' : MediaSource D B} {rest : List AVPacket} {vps : List VideoPacket}
    {aps : List AudioPacket} {n : Nat} (hcalls : Calls m vps aps m') (h : Left F m' rest)
    (hn : (m'.toCome F rest).length = n) :
    ∃ vps' last m'', Calls m (vps ++ vps') aps last ∧ last.readPacket = (none, m'') := by
  induction n generalizing m' rest vps with
  | zero =>
      obtain ⟨rest', -, hadv⟩ := readPacket_advances F h
      obtain ⟨r, m'', hread⟩ : ∃ r m'', m'.readPacket = (r, m'') := ⟨_, _, rfl⟩
      rw [hread] at hadv
      cases hadv with
      | frame _ _ next _ =>
          rw [next] at hn
          cases hn
      | stops _ => exact ⟨[], m', m'', by rw [List.append_nil]; exact hcalls, hread⟩
  | succ n ih =>
      obtain ⟨rest', -, hadv⟩ := readPacket_advances F h
      obtain ⟨r, n', hread⟩ : ∃ r n', m'.readPacket = (r, n') := ⟨_, _, rfl⟩
      rw [hread] at hadv
      cases hadv with
      | @frame _ _ _ vp left _ next _ =>
          rw [next, List.length_cons] at hn
          obtain ⟨vps', last, m'', hrun, hend⟩ := ih (hcalls.read hread) left (Nat.succ.inj hn)
          refine ⟨vp :: vps', last, m'', ?_, hend⟩
          rw [List.append_assoc, List.singleton_append] at hrun
          exact hrun
      | stops done =>
          rw [done] at hn
          cases hn

/-! ## Whole files -/

/-- A source of which nothing was read since it was opened or repositioned. -/
structure Started (m : MediaSource D B) : Prop where
  prefetchVp : m.prefetchVp = none
  atStart : m.bsfAtEof = false
  filter : ∀ b, m.bsfCtx = some b → F.ended b = false ∧ F.held b = []
  audioQueue : m.audioQueue = []

theorem Started.left {m : MediaSource D B} {ps : List AVPacket} (h : Started F m)
    (hps : Contents B m.fmtCtx ps) : Left F m ps := by
  refine ⟨h.prefetchVp, fun b hb => (h.filter b hb).1.trans h.atStart.symm, fun _ => hps,
    fun htrue => ?_⟩
  rw [h.atStart] at htrue
  cases htrue

theorem Started.toCome {m : MediaSource D B} (h : Started F m) (ps : List AVPacket) :
    m.toCome F ps = ps.filter m.isVideo := by
  cases hb : m.bsfCtx with
  | none => rw [MediaSource.toCome, held, hb, Option.elim_none, List.nil_append]
  | some b =>
      rw [MediaSource.toCome, held, hb, Option.elim_some, (h.filter b hb).2, List.nil_append]

/-- **Demuxing loses nothing**, for every file, with a filter or without one, and for every order
    of the calls: each call returns, the frames are the first video packets of the file in
    order, the audio packets that were returned and those that are queued are the first ones of
    the file in order, and the calls get to one of `readPacket` that returns false, at which both
    are all there. -/
theorem demuxing_complete {m m' : MediaSource D B} {ps : List AVPacket} {vps : List VideoPacket}
    {aps : List AudioPacket} (h : Started F m) (hps : Contents B m.fmtCtx ps)
    (hcalls : Calls m vps aps m') :
    Loops m' m'.readPacket.1 m'.readPacket.2 ∧
      (∃ ds, ds <+: ps.filter m.isVideo ∧ List.Forall₂ (FrameOf made m) ds vps) ∧
      (∃ qs, qs <+: ps ∧
        (aps ++ m'.audioQueue).map (·.data) = (qs.filter m.audioSide.isAudio).map (·.data)) ∧
      (∀ m'', m'.readPacket = (none, m'') →
        List.Forall₂ (FrameOf made m) (ps.filter m.isVideo) vps ∧
          (aps ++ m''.audioQueue).map (·.data) = (ps.filter m.audioSide.isAudio).map (·.data)) ∧
      ∃ vps' last m'', Calls m (vps ++ vps') aps last ∧ last.readPacket = (none, m'') := by
  obtain ⟨rest, hleft, hstreams, ⟨ds, hds, hframes⟩, qs, hqs, haudio⟩ :=
    hcalls.done F (h.left F hps)
  rw [h.toCome F] at hds
  -- the queue was empty
  have hqueue : ∀ {qs : List AVPacket} {n : MediaSource D B},
      n.audioSide.behind aps = qs.foldl AudioSide.take m.audioSide →
      (aps ++ n.audioQueue).map (·.data) = (qs.filter m.audioSide.isAudio).map (·.data) := by
    intro qs n hside
    have hdata := congrArg (fun a : AudioSide => a.queue.map (·.data)) hside
    rw [AudioSide.queue_foldl] at hdata
    change _ = m.audioQueue.map _ ++ _ at hdata
    rw [h.audioQueue] at hdata
    exact hdata
  refine ⟨loops_readPacket hleft.prefetchVp, ⟨ds, ⟨_, hds.symm⟩, hframes⟩,
    ⟨qs, ⟨rest, hqs.symm⟩, hqueue haudio⟩, fun m'' hread => ?_, hcalls.ends F hleft rfl⟩
  obtain ⟨rest', hrest, hadv⟩ := readPacket_advances F hleft
  have hside := audioSide_readPacket m'
  rw [hread] at hadv hside
  cases hadv with
  | stops done =>
      rw [done, List.append_nil] at hds
      rw [List.append_nil] at hrest
      refine ⟨hds ▸ hframes, hqueue ?_⟩
      rw [hqs, List.foldl_append, ← haudio, AudioSide.behind_foldl, hside, hrest]

end MediaSource

/-! ## A filter that holds packets back -/

/-- A filter that gives out a packet when more than `delay` are pending, and the last ones when
    it was sent the null packet. -/
structure DelayQueue where
  delay : Nat
  pending : List AVPacket
  ended : Bool
  deriving DecidableEq

namespace DelayQueue

instance : FFmpeg PacketList DelayQueue where
  readFrame := FFmpeg.readFrame Unit
  seekFrame := FFmpeg.seekFrame Unit
  bsfReceive b :=
    match b.pending with
    | [] => (if b.ended then .eof else .eagain, b)
    | p :: rest =>
        if b.ended ∨ b.delay ≤ rest.length then (.packet p, { b with pending := rest })
        else (.eagain, b)
  bsfSend p b :=
    match p with
    | some p => (true, { b with pending := b.pending ++ [p] })
    | none => (true, { b with ended := true })
  bsfFlush b := { b with pending := [], ended := false }
  remaining := FFmpeg.remaining Unit
  remaining_lt := FFmpeg.remaining_lt

theorem bsfReceive_empty {b : DelayQueue} (h : b.pending = []) :
    FFmpeg.bsfReceive PacketList b = (if b.ended then .eof else .eagain, b) := by
  simp only [FFmpeg.bsfReceive, h]

theorem bsfReceive_cons {b : DelayQueue} {p : AVPacket} {rest : List AVPacket}
    (h : b.pending = p :: rest) :
    FFmpeg.bsfReceive PacketList b =
      if b.ended ∨ b.delay ≤ rest.length then (.packet p, { b with pending := rest })
      else (.eagain, b) := by
  simp only [FFmpeg.bsfReceive, h]

theorem bsfReceive_cases (b : DelayQueue) :
    (b.ended = true ∧ b.pending = [] ∧ FFmpeg.bsfReceive PacketList b = (.eof, b)) ∨
    (b.ended = false ∧ FFmpeg.bsfReceive PacketList b = (.eagain, b)) ∨
    ∃ p rest, b.pending = p :: rest ∧
      FFmpeg.bsfReceive PacketList b = (.packet p, { b with pending := rest }) := by
  cases hb : b.pending with
  | nil =>
      rw [bsfReceive_empty hb]
      by_cases hended : b.ended = true
      · exact .inl ⟨hended, rfl, by rw [if_pos hended]⟩
      · exact .inr (.inl ⟨Bool.eq_false_iff.mpr hended, by rw [if_neg hended]⟩)
  | cons p rest =>
      rw [bsfReceive_cons hb]
      by_cases hgive : b.ended = true ∨ b.delay ≤ rest.length
      · exact .inr (.inr ⟨p, rest, rfl, if_pos hgive⟩)
      · have hopen : b.ended = false := Bool.eq_false_iff.mpr fun hended => hgive (.inl hended)
        exact .inr (.inl ⟨hopen, if_neg hgive⟩)

/-- It makes one packet of each. -/
def queueFilter : QueueFilter PacketList DelayQueue (fun p q => p = q) where
  held b := b.pending
  ended b := b.ended
  receive_packet {b q b'} h := by
    rcases bsfReceive_cases b with ⟨-, -, heq⟩ | ⟨-, heq⟩ | ⟨p, rest, hb, heq⟩
    · rw [heq] at h
      cases (Prod.mk.inj h).1
    · rw [heq] at h
      cases (Prod.mk.inj h).1
    · obtain ⟨hp, rfl⟩ := Prod.mk.inj (heq.symm.trans h)
      exact ⟨rfl, p, hb, BsfResult.packet.inj hp⟩
  receive_eagain {b b'} h := by
    rcases bsfReceive_cases b with ⟨-, -, heq⟩ | ⟨hopen, heq⟩ | ⟨p, rest, hb, heq⟩
    · rw [heq] at h
      cases (Prod.mk.inj h).1
    · obtain ⟨-, rfl⟩ := Prod.mk.inj (heq.symm.trans h)
      exact ⟨hopen, hopen, rfl, fun p => ⟨_, rfl, hopen, rfl⟩⟩
    · rw [heq] at h
      cases (Prod.mk.inj h).1
  receive_eof {b b'} h := by
    rcases bsfReceive_cases b with ⟨hended, hb, heq⟩ | ⟨-, heq⟩ | ⟨p, rest, hb, heq⟩
    · obtain ⟨-, rfl⟩ := Prod.mk.inj (heq.symm.trans h)
      exact ⟨hended, hended, hb, hb⟩
    · rw [heq] at h
      cases (Prod.mk.inj h).1
    · rw [heq] at h
      cases (Prod.mk.inj h).1
  receive_error {b b'} h := by
    rcases bsfReceive_cases b with ⟨-, -, heq⟩ | ⟨-, heq⟩ | ⟨p, rest, hb, heq⟩ <;>
      · rw [heq] at h
        cases (Prod.mk.inj h).1
  send_null b := ⟨rfl, rfl⟩

theorem contents (before ps : List AVPacket) :
    Contents DelayQueue (PacketList.mk before ps) ps := by
  induction ps generalizing before with
  | nil =>
      have hread : FFmpeg.readFrame DelayQueue (PacketList.mk before []) =
          (none, ⟨before, []⟩) := rfl
      exact .eof hread
  | cons p ps ih =>
      have hread : FFmpeg.readFrame DelayQueue (PacketList.mk before (p :: ps)) =
          (some p, ⟨p :: before, ps⟩) := rfl
      exact .packet hread (ih (p :: before))

/-- Video, audio and video. -/
def mixedPackets : List AVPacket :=
  [{ streamIndex := 0, pts := 0, dts := 0, key := true, duration := 3000, data := [0x65] },
   { streamIndex := 1, pts := 0, dts := 0, key := true, duration := 1024, data := [0x21] },
   { streamIndex := 0, pts := 3000, dts := 3000, key := false, duration := 3000, data := [0x41] }]

/-- A source over these packets, with a filter that holds back all that it is sent. -/
def mixedSource : MediaSource PacketList DelayQueue :=
  { fmtCtx := ⟨[], mixedPackets⟩, bsfCtx := some ⟨8, [], false⟩, videoIdx := 0
    timeBase := MediaSource.keysSource.timeBase, streamInfo := MediaSource.keysSource.streamInfo
    audioInfo := { present := true, sampleRate := 44100, channels := 2, asc := [] }
    audioIdx := 1, audioTimeBase := MediaSource.keysSource.audioTimeBase
    audioFirstPts := avNoPtsValue, audioRtpOffset := 0, audioQueue := [], rtpOffset := 0
    firstPts := avNoPtsValue, bsfAtEof := false, prefetchVp := none }

theorem mixedSource_started : MediaSource.Started queueFilter mixedSource := by
  refine ⟨rfl, rfl, fun b hb => ?_, rfl⟩
  obtain rfl := Option.some.inj hb
  exact ⟨rfl, rfl⟩

end DelayQueue

namespace MediaSource

theorem pktData_of_frames {m : MediaSource D B} {ds : List AVPacket} {vps : List VideoPacket}
    (h : List.Forall₂ (FrameOf (fun p q => p = q) m) ds vps) : vps.map (·.pktData) = ds := by
  induction h with
  | nil => rfl
  | cons hframe _ ih =>
      rw [List.map_cons, ih]
      rcases hframe with ⟨-, heq⟩ | ⟨-, heq⟩
      · rw [heq]
      · rw [heq]

/-- Both frames come out of the filter after it is flushed. -/
theorem demuxing_complete_mixed :
    ∃ vps last m'', Calls DelayQueue.mixedSource vps [] last ∧ last.readPacket = (none, m'') ∧
      vps.map (·.pktData.data) = [[0x65], [0x41]] ∧ m''.audioQueue.map (·.data) = [[0x21]] := by
  have hstarted := DelayQueue.mixedSource_started
  have hcontents := DelayQueue.contents [] DelayQueue.mixedPackets
  obtain ⟨-, -, -, -, vps, last, m'', hcalls, hend⟩ :=
    demuxing_complete _ hstarted hcontents .refl
  obtain ⟨-, -, -, hall, -⟩ := demuxing_complete _ hstarted hcontents hcalls
  obtain ⟨hframes, haudio⟩ := hall m'' hend
  refine ⟨vps, last, m'', hcalls, hend, ?_, haudio⟩
  have hdata := congrArg (List.map AVPacket.data) (pktData_of_frames hframes)
  rw [List.map_map] at hdata
  exact hdata

end MediaSource

end RtspServer
