/-
  Whether a peek can be seen. `peekNextVideoRTPTimestamp` reads the next frame into the slot of
  the source, from which `readPacket` returns it: the source is a `Lookahead` over its loop. A
  frame is not lost, but a failure is: a peek whose read fails returns 0 and leaves nothing, so
  the next `readPacket` does not return false but goes on.

  `Supply` is what the source reads from: the file, the filter and whether it was flushed.
  `peek_invisible_iff`: peeks are invisible exactly where no packet comes from it after it has
  failed.
-/
import RtspServer.Lib.Lookahead
import RtspServer.Media.Demuxing

namespace RtspServer

variable {D B : Type}

/-! ## What a source reads from -/

structure Supply (D B : Type) where
  file : D
  filter : Option B
  flushed : Bool

/-- What one round of asking gives: a video packet, a failure, or nothing yet. -/
inductive Answer where
  | more
  | fails
  | packet (p : AVPacket)

namespace Supply

variable [FFmpeg D B]

open FFmpeg

def askFile (videoIdx : Int) (s : Supply D B) : Answer × Supply D B :=
  match readFrame B s.file, s.filter with
  | (none, d), none => (.fails, ⟨d, none, s.flushed⟩)
  | (none, d), some b => (.more, ⟨d, some (bsfSend D none b).2, true⟩)
  | (some p, d), filter =>
      if p.streamIndex ≠ videoIdx then (.more, ⟨d, filter, s.flushed⟩)
      else
        match filter with
        | none => (.packet p, ⟨d, none, s.flushed⟩)
        | some b =>
            (if (bsfSend D (some p) b).1 then .more else .fails,
              ⟨d, some (bsfSend D (some p) b).2, s.flushed⟩)

/-- The filter is asked first, and fed when it needs input. -/
def ask (videoIdx : Int) (s : Supply D B) : Answer × Supply D B :=
  match s.filter with
  | none => s.askFile videoIdx
  | some b =>
      match bsfReceive D b with
      | (.packet p, b) => (.packet p, { s with filter := some b })
      | (.eof, b) => (.fails, { s with filter := some b })
      | (.error, b) => (.fails, { s with filter := some b })
      | (.eagain, b) =>
          if s.flushed then (.fails, { s with filter := some b })
          else askFile videoIdx { s with filter := some b }

/-- Some rounds later. -/
inductive Later (videoIdx : Int) (s : Supply D B) : Supply D B → Prop where
  | refl : Later videoIdx s s
  | tail {s' : Supply D B} (h : Later videoIdx s s') : Later videoIdx s (s'.ask videoIdx).2

/-- Once it has failed, no packet comes from it any more. -/
def FailuresFinal (videoIdx : Int) (s : Supply D B) : Prop :=
  ∀ s' s'', Later videoIdx s s' → (s'.ask videoIdx).1 = .fails →
    Later videoIdx (s'.ask videoIdx).2 s'' → ∀ p, (s''.ask videoIdx).1 ≠ .packet p

theorem Later.trans {videoIdx : Int} {s s' s'' : Supply D B} (h : Later videoIdx s s')
    (h' : Later videoIdx s' s'') : Later videoIdx s s'' := by
  induction h' with
  | refl => exact h
  | tail _ ih => exact ih.tail

end Supply

namespace MediaSource

def supply (m : MediaSource D B) : Supply D B := ⟨m.fmtCtx, m.bsfCtx, m.bsfAtEof⟩

/-- The answer that a round of `readPacket` has got. -/
def answerOf : Option (Option VideoPacket) → Answer
  | none => .more
  | some none => .fails
  | some (some vp) => .packet vp.pktData

variable [FFmpeg D B]

open FFmpeg

theorem ContainerRead.ask {m m' : MediaSource D B} {r : Option (Option VideoPacket)}
    (h : ContainerRead m r m') :
    m.supply.askFile m.videoIdx = (answerOf r, m'.supply) ∧ m'.videoIdx = m.videoIdx := by
  cases h with
  | eof hread hb => simp [supply, Supply.askFile, hread, hb, answerOf]
  | flush hread hb => simp [supply, Supply.askFile, hread, hb, answerOf]
  | @other d p hread hp =>
      obtain ⟨hd, hb, hidx⟩ := otherPacket_same p { m with fmtCtx := d }
      have heof := bsfAtEof_otherPacket p { m with fmtCtx := d }
      simp [supply, Supply.askFile, hread, hp, answerOf, hd, hb, hidx, heof]
  | frame hread hp hb => simp [supply, Supply.askFile, hread, hp, hb, answerOf, processPacket]
  | sent hread hp hb hsend => simp [supply, Supply.askFile, hread, hp, hb, hsend, answerOf]
  | refused hread hp hb hsend => simp [supply, Supply.askFile, hread, hp, hb, hsend, answerOf]

theorem RoundRead.ask {m m' : MediaSource D B} {r : Option (Option VideoPacket)}
    (h : RoundRead m r m') :
    m.supply.ask m.videoIdx = (answerOf r, m'.supply) ∧ m'.videoIdx = m.videoIdx := by
  cases h with
  | direct hb h =>
      have hfile := h.ask
      simpa only [Supply.ask, supply, hb] using hfile
  | packet hb hrec => simp [Supply.ask, supply, hb, hrec, answerOf, processPacket]
  | stop hb hrec hres =>
      rcases hres with rfl | rfl | ⟨rfl, heof⟩
      · simp [Supply.ask, supply, hb, hrec, answerOf]
      · simp [Supply.ask, supply, hb, hrec, answerOf]
      · simp [Supply.ask, supply, hb, hrec, heof, answerOf]
  | feed hb hrec heof h =>
      have hfile := h.ask
      simpa [Supply.ask, supply, hb, hrec, heof] using hfile

/-- A round of `readPacket` asks the supply. -/
theorem ask_supply (m : MediaSource D B) :
    m.supply.ask m.videoIdx = (answerOf m.readRound.1, m.readRound.2.supply) ∧
      m.readRound.2.videoIdx = m.videoIdx :=
  (readRound_cases m).ask

/-! ## Reads and rounds -/

/-- The loop returns once. -/
theorem Loops.unique {m m' m'' : MediaSource D B} {r r' : Option VideoPacket}
    (h : Loops m r m') (h' : Loops m r' m'') : r = r' ∧ m' = m'' := by
  induction h with
  | returns h =>
      cases h' with
      | returns h' =>
          obtain ⟨hr, hm⟩ := Prod.mk.inj (h.symm.trans h')
          exact ⟨Option.some.inj hr, hm⟩
      | goesOn h' _ => cases (Prod.mk.inj (h.symm.trans h')).1
  | goesOn h _ ih =>
      cases h' with
      | returns h' => cases (Prod.mk.inj (h.symm.trans h')).1
      | goesOn h' rest =>
          obtain ⟨-, rfl⟩ := Prod.mk.inj (h.symm.trans h')
          exact ih rest

/-- `readPacket` without the slot. -/
def next (m : MediaSource D B) : Option VideoPacket × MediaSource D B :=
  m.readLoop (remaining B m.fmtCtx + 2)

theorem loops_next (m : MediaSource D B) : Loops m m.next.1 m.next.2 :=
  loops_readLoop (Nat.lt_succ_of_le m.roundsLeft_le)

theorem next_of_loops {m m' : MediaSource D B} {r : Option VideoPacket} (h : Loops m r m') :
    m.next = (r, m') := by
  obtain ⟨hr, hm⟩ := (loops_next m).unique h
  exact Prod.ext hr hm

/-- The rounds of a read up to the last one. -/
inductive Goes (m : MediaSource D B) : MediaSource D B → Prop where
  | refl : Goes m m
  | tail {n n' : MediaSource D B} (h : Goes m n) (hround : n.readRound = (none, n')) : Goes m n'

theorem Goes.trans {m n k : MediaSource D B} (h : Goes m n) (h' : Goes n k) : Goes m k := by
  induction h' with
  | refl => exact h
  | tail _ hround ih => exact ih.tail hround

theorem Goes.loops {m n m' : MediaSource D B} {r : Option VideoPacket} (h : Goes m n)
    (hloops : Loops n r m') : Loops m r m' := by
  induction h with
  | refl => exact hloops
  | tail _ hround ih => exact ih (.goesOn hround hloops)

theorem Loops.goes {m m' : MediaSource D B} {r : Option VideoPacket} (h : Loops m r m') :
    ∃ n, Goes m n ∧ n.readRound = (some r, m') := by
  induction h with
  | returns h => exact ⟨_, .refl, h⟩
  | goesOn h _ ih =>
      obtain ⟨n, hgoes, hround⟩ := ih
      exact ⟨n, (Goes.refl.tail h).trans hgoes, hround⟩

theorem Goes.later {m n : MediaSource D B} (h : Goes m n) :
    n.videoIdx = m.videoIdx ∧ Supply.Later m.videoIdx m.supply n.supply := by
  induction h with
  | refl => exact ⟨rfl, .refl⟩
  | @tail n n' _ hround ih =>
      obtain ⟨hidx, hlater⟩ := ih
      obtain ⟨hask, hidx'⟩ := ask_supply n
      rw [hround, hidx] at hask hidx'
      refine ⟨hidx', ?_⟩
      have htail := hlater.tail
      rw [hask] at htail
      exact htail

/-- What a read gets from the supply, and when. -/
theorem next_later (m : MediaSource D B) :
    m.next.2.videoIdx = m.videoIdx ∧ ∃ s, Supply.Later m.videoIdx m.supply s ∧
      s.ask m.videoIdx = (answerOf (some m.next.1), m.next.2.supply) := by
  obtain ⟨n, hgoes, hround⟩ := (loops_next m).goes
  obtain ⟨hidx, hlater⟩ := hgoes.later
  obtain ⟨hask, hidx'⟩ := ask_supply n
  rw [hround, hidx] at hask hidx'
  exact ⟨hidx', n.supply, hlater, hask⟩

open Lookahead in
theorem after_later (m : MediaSource D B) (n : Nat) :
    (after next n m).videoIdx = m.videoIdx ∧
      Supply.Later m.videoIdx m.supply (after next n m).supply := by
  induction n generalizing m with
  | zero => exact ⟨rfl, .refl⟩
  | succ n ih =>
      obtain ⟨hidx, s, hlater, hask⟩ := next_later m
      obtain ⟨hidx', hlater'⟩ := ih m.next.2
      rw [after_succ]
      rw [hidx] at hidx' hlater'
      refine ⟨hidx', (hlater.tail).trans ?_⟩
      rw [hask]
      exact hlater'

open Lookahead in
/-- Every round of asking is one of a read. -/
theorem exists_goes {m : MediaSource D B} {s : Supply D B}
    (h : Supply.Later m.videoIdx m.supply s) :
    ∃ k n, Goes (after next k m) n ∧ n.supply = s ∧ n.videoIdx = m.videoIdx := by
  induction h with
  | refl => exact ⟨0, m, .refl, rfl, rfl⟩
  | tail _ ih =>
      obtain ⟨k, n, hgoes, rfl, hidx⟩ := ih
      obtain ⟨hask, hidx'⟩ := ask_supply n
      obtain ⟨r, n', hround⟩ : ∃ r n', n.readRound = (r, n') := ⟨_, _, rfl⟩
      rw [hround, hidx] at hask hidx'
      rw [hask]
      cases r with
      | none => exact ⟨k, n', hgoes.tail hround, rfl, hidx'⟩
      | some r =>
          have hnext := next_of_loops (hgoes.loops (.returns hround))
          refine ⟨k + 1, n', ?_, rfl, hidx'⟩
          rw [after_add k 1]
          change Goes (after next k m).next.2 n'
          rw [hnext]
          exact .refl

/-- The round at which the supply fails is the last one of a read that returns false. -/
theorem Goes.next_of_fails {m n : MediaSource D B} (h : Goes m n)
    (hfails : (n.supply.ask n.videoIdx).1 = .fails) :
    m.next.1 = none ∧ m.next.2.supply = (n.supply.ask n.videoIdx).2 ∧
      m.next.2.videoIdx = n.videoIdx := by
  obtain ⟨hask, hidx⟩ := ask_supply n
  obtain ⟨r, n', hround⟩ : ∃ r n', n.readRound = (r, n') := ⟨_, _, rfl⟩
  rw [hround] at hask hidx
  rw [hask] at hfails ⊢
  cases r with
  | none => cases hfails
  | some r =>
      cases r with
      | some vp => cases hfails
      | none =>
          rw [next_of_loops (h.loops (.returns hround))]
          exact ⟨rfl, rfl, hidx⟩

theorem Goes.next_of_packet {m n : MediaSource D B} {p : AVPacket} (h : Goes m n)
    (hpacket : (n.supply.ask n.videoIdx).1 = .packet p) : ∃ vp, m.next.1 = some vp := by
  obtain ⟨hask, -⟩ := ask_supply n
  obtain ⟨r, n', hround⟩ : ∃ r n', n.readRound = (r, n') := ⟨_, _, rfl⟩
  rw [hround] at hask
  rw [hask] at hpacket
  cases r with
  | none => cases hpacket
  | some r =>
      cases r with
      | none => cases hpacket
      | some vp =>
          rw [next_of_loops (h.loops (.returns hround))]
          exact ⟨vp, rfl⟩

open Lookahead in
/-- Failures of reads are final where failures of the supply are. -/
theorem failuresFinal_iff (m : MediaSource D B) :
    FailuresFinal next m ↔ Supply.FailuresFinal m.videoIdx m.supply := by
  constructor
  · intro h s' s'' hlater hfails hlater' p hpacket
    -- the read of the failure, and the later one of the packet
    obtain ⟨k, n, hgoes, rfl, hidx⟩ := exists_goes hlater
    rw [← hidx] at hfails hlater' hpacket
    obtain ⟨hnone, hsupply, hidx'⟩ := hgoes.next_of_fails hfails
    have hdry : Dry next (after next k m).next.2 := ((h.after k).dry hnone).step
    rw [← hsupply, ← hidx'] at hlater'
    rw [← hidx'] at hpacket
    obtain ⟨j, l, hgoes', rfl, hidx''⟩ := exists_goes hlater'
    rw [← hidx''] at hpacket
    obtain ⟨vp, hread⟩ := hgoes'.next_of_packet hpacket
    have hdry' := hdry j
    rw [hread] at hdry'
    cases hdry'
  · intro h n hfail
    obtain ⟨hidx, hlater⟩ := after_later m n
    obtain ⟨hidx', s, hlater', hask⟩ := next_later (after next n m)
    obtain ⟨-, s', hlater'', hask'⟩ := next_later (after next n m).next.2
    rw [hfail] at hask
    rw [hidx] at hlater' hask hidx'
    rw [hidx'] at hlater'' hask'
    rw [after_add n 1]
    cases hread : (after next n m).next.2.next.1 with
    | none => exact hread
    | some vp =>
        rw [hread] at hask'
        exfalso
        refine h s s' (hlater.trans hlater') (by rw [hask]; rfl) ?_ vp.pktData (by rw [hask']; rfl)
        rw [hask]
        exact hlater''

/-! ## The slot -/

/-- The source as one with a slot. -/
def lookahead (m : MediaSource D B) : Lookahead (MediaSource D B) VideoPacket :=
  ⟨{ m with prefetchVp := none }, m.prefetchVp⟩

theorem prefetchVp_next (m : MediaSource D B) : m.next.2.prefetchVp = m.prefetchVp :=
  (readLoop_spec _ m).1.prefetchVp

omit [FFmpeg D B] in
theorem lookahead_none {m : MediaSource D B} (h : m.prefetchVp = none) :
    m.lookahead = ⟨m, none⟩ := by
  obtain ⟨⟩ := m
  subst h
  rfl

theorem read_lookahead (m : MediaSource D B) :
    m.lookahead.read next = (m.readPacket.1, m.readPacket.2.lookahead) := by
  cases hvp : m.prefetchVp with
  | some vp =>
      simp only [lookahead, Lookahead.read, readPacket, hvp]
  | none =>
      have hnext := prefetchVp_next m
      rw [hvp] at hnext
      rw [lookahead_none hvp, readPacket_of_none hvp]
      change _ = (m.next.1, m.next.2.lookahead)
      rw [lookahead_none hnext]
      rfl

theorem peek_lookahead (m : MediaSource D B) :
    (m.lookahead.peek next).2 = m.peekNextVideoRTPTimestamp.2.lookahead ∧
      ∀ vp, (m.lookahead.peek next).1 = some vp →
        m.peekNextVideoRTPTimestamp.1 = vp.rtpTimestamp := by
  cases hvp : m.prefetchVp with
  | some held =>
      refine ⟨by simp only [lookahead, Lookahead.peek, peekNextVideoRTPTimestamp, hvp], ?_⟩
      simp only [lookahead, Lookahead.peek, peekNextVideoRTPTimestamp, hvp]
      exact fun vp h => by rw [Option.some.inj h]
  | none =>
      have hnext := prefetchVp_next m
      rw [hvp] at hnext
      obtain ⟨r, m', hread⟩ : ∃ r m', m.next = (r, m') := ⟨_, _, rfl⟩
      have hpacket : m.readPacket = (r, m') := (readPacket_of_none hvp).trans hread
      rw [hread] at hnext
      rw [lookahead_none hvp]
      simp only [Lookahead.peek, hread, peekNextVideoRTPTimestamp, hvp, hpacket]
      cases r with
      | none => exact ⟨(lookahead_none hnext).symm, fun vp h => by cases h⟩
      | some vp' =>
          refine ⟨?_, fun vp h => by rw [Option.some.inj h]⟩
          dsimp only [lookahead]
          rw [← hnext]

/-- The results of the calls of `readPacket` among these, and the source after all of them. -/
def results : List Lookahead.Call → MediaSource D B → List (Option VideoPacket) × MediaSource D B
  | [], m => ([], m)
  | .read :: cs, m =>
      let (r, m) := m.readPacket
      let (rs, m) := results cs m
      (r :: rs, m)
  | .peek :: cs, m => results cs m.peekNextVideoRTPTimestamp.2

open Lookahead in
theorem results_eq_run (cs : List Call) (m : MediaSource D B) :
    (results cs m).1 = (run next cs m.lookahead).1 ∧
      (results cs m).2.lookahead = (run next cs m.lookahead).2 := by
  induction cs generalizing m with
  | nil => exact ⟨rfl, rfl⟩
  | cons c cs ih =>
      cases c with
      | read =>
          obtain ⟨hresults, hend⟩ := ih m.readPacket.2
          rw [run, read_lookahead]
          exact ⟨congrArg _ hresults, hend⟩
      | peek =>
          rw [run, (peek_lookahead m).1]
          exact ih m.peekNextVideoRTPTimestamp.2

open Lookahead in
/-- The calls of `readPacket` return the same packets and results when all peeks are left out,
    and a peek while there is a further packet returns the timestamp of the next one. -/
structure PeekInvisible (m : MediaSource D B) : Prop where
  same : ∀ cs, (results cs m).1 = (results (reads cs) m).1
  peeked : ∀ cs n vp, some vp ∈ (results (List.replicate n .read) (results cs m).2).1 →
    ∃ vp', (results cs m).2.peekNextVideoRTPTimestamp.2.readPacket.1 = some vp' ∧
      (results cs m).2.peekNextVideoRTPTimestamp.1 = vp'.rtpTimestamp

open Lookahead in
/-- **Peeking is invisible**, for every source and every sequence of calls, if and only if from
    where the source stands no packet comes from its file and filter after they have failed. -/
theorem peek_invisible_iff (m : MediaSource D B) :
    PeekInvisible m ↔ Supply.FailuresFinal m.videoIdx m.supply := by
  have hfinal : FailuresFinal next m.lookahead.source ↔
      Supply.FailuresFinal m.videoIdx m.supply := failuresFinal_iff { m with prefetchVp := none }
  rw [← hfinal]
  constructor
  · intro h
    refine (run_filter_iff m.lookahead).mp fun cs => ?_
    rw [← (results_eq_run cs m).1, ← (results_eq_run (reads cs) m).1]
    exact h.same cs
  · intro h
    refine ⟨fun cs => ?_, fun cs n vp hvp => ?_⟩
    · rw [(results_eq_run cs m).1, (results_eq_run (reads cs) m).1]
      exact (run_filter_iff m.lookahead).mpr h cs
    · have hend := run_final h cs
      rw [← (results_eq_run cs m).2] at hend
      rw [(results_eq_run _ _).1] at hvp
      obtain ⟨vp', hpeek, hread⟩ := peek_eq_read hend ⟨n, vp, hvp⟩
      obtain ⟨hslot, htimestamp⟩ := peek_lookahead (results cs m).2
      rw [hslot, read_lookahead] at hread
      exact ⟨vp', hread, htimestamp vp' hpeek⟩

end MediaSource

/-! ## A filter that refuses a packet -/

/-- A filter that passes packets on as they are, but reports an error for one without data. -/
structure StrictQueue where
  pending : List AVPacket
  ended : Bool
  deriving DecidableEq

namespace StrictQueue

instance : FFmpeg PacketList StrictQueue where
  readFrame := FFmpeg.readFrame Unit
  seekFrame := FFmpeg.seekFrame Unit
  bsfReceive b :=
    match b.pending with
    | [] => (if b.ended then .eof else .eagain, b)
    | p :: rest => (if p.data = [] then .error else .packet p, { b with pending := rest })
  bsfSend p b :=
    match p with
    | some p => (true, { b with pending := b.pending ++ [p] })
    | none => (true, { b with ended := true })
  bsfFlush _ := ⟨[], false⟩
  remaining := FFmpeg.remaining Unit
  remaining_lt := FFmpeg.remaining_lt

/-- A packet without data and a key frame. -/
def brokenPackets : List AVPacket :=
  [{ streamIndex := 0, pts := 0, dts := 0, key := false, duration := 3000, data := [] },
   { streamIndex := 0, pts := 3000, dts := 3000, key := true, duration := 3000
     data := [0, 0, 0, 1, 0x65] }]

def brokenSource : MediaSource PacketList StrictQueue :=
  { fmtCtx := ⟨[], brokenPackets⟩, bsfCtx := some ⟨[], false⟩, videoIdx := 0
    timeBase := MediaSource.keysSource.timeBase, streamInfo := MediaSource.keysSource.streamInfo
    audioInfo := MediaSource.keysSource.audioInfo, audioIdx := -1
    audioTimeBase := MediaSource.keysSource.audioTimeBase
    audioFirstPts := avNoPtsValue, audioRtpOffset := 0, audioQueue := [], rtpOffset := 0
    firstPts := avNoPtsValue, bsfAtEof := false, prefetchVp := none }

end StrictQueue

namespace MediaSource

/-- The first call of `readPacket` returns false, and with a peek in front of it true. -/
theorem broken_peek_visible : ¬ PeekInvisible StrictQueue.brokenSource := by
  intro h
  have hsame := congrArg (List.map Option.isSome) (h.same [.peek, .read])
  have hpeeked : (results [.peek, .read] StrictQueue.brokenSource).1.map Option.isSome =
      [true] := by
    decide +kernel
  have halone : (results (Lookahead.reads [.peek, .read]) StrictQueue.brokenSource).1.map
      Option.isSome = [false] := by
    decide +kernel
  rw [hpeeked, halone] at hsame
  cases hsame

end MediaSource

end RtspServer
