/-
  A `MediaSource` over all orders of its calls. `Life` is the abstract object: shut, with what the
  last file left behind, or a live source. `calls_refine`: no order of calls makes the object use
  a null pointer, but for a seek whose probe has no packet, and every answer is that of its `Life`.
  `reopened_as_new`: with no frame waiting, what an object answers from an `open` on does not
  depend on what was done with it before.
-/
import RtspServer.Media.Opening
import RtspServer.Media.Peeking

namespace RtspServer

open ByteString Calls

/-! ## What reading does not look at -/

namespace MediaSource

variable {D B : Type}

/-- The source with other stream parameters and another time base for the audio. -/
def retouch (info : H264StreamInfo) (tb : TimeBase) (m : MediaSource D B) : MediaSource D B :=
  { m with streamInfo := info, audioTimeBase := tb }

/-- The time base of the audio is read only where there is an audio stream. -/
def Untold (tb : TimeBase) (m : MediaSource D B) : Prop := 0 ≤ m.audioIdx → m.audioTimeBase = tb

theorem otherPacket_retouch (info : H264StreamInfo) {tb : TimeBase} (p : AVPacket)
    {m : MediaSource D B} (h : m.Untold tb) :
    (m.retouch info tb).otherPacket p = (m.otherPacket p).retouch info tb := by
  unfold otherPacket
  by_cases hp : 0 ≤ m.audioIdx ∧ p.streamIndex = m.audioIdx
  · have hp' : 0 ≤ (m.retouch info tb).audioIdx ∧
        p.streamIndex = (m.retouch info tb).audioIdx := hp
    obtain rfl := h hp.1
    rw [if_pos hp, if_pos hp']
    rfl
  · have hp' : ¬ (0 ≤ (m.retouch info tb).audioIdx ∧
        p.streamIndex = (m.retouch info tb).audioIdx) := hp
    rw [if_neg hp, if_neg hp']

/-- A part of a read answers the same on a retouched source. -/
def Blind (info : H264StreamInfo) (tb : TimeBase) {ρ : Type} (f : MediaSource D B → ρ × MediaSource D B)
    (m : MediaSource D B) : Prop :=
  f (m.retouch info tb) = ((f m).1, (f m).2.retouch info tb) ∧ (f m).2.audioIdx = m.audioIdx ∧
    (f m).2.audioTimeBase = m.audioTimeBase

theorem otherPacket_audio (p : AVPacket) (m : MediaSource D B) :
    (m.otherPacket p).audioIdx = m.audioIdx ∧
      (m.otherPacket p).audioTimeBase = m.audioTimeBase := by
  unfold otherPacket
  split <;> exact ⟨rfl, rfl⟩

variable [FFmpeg D B]

open FFmpeg

theorem readContainer_blind (info : H264StreamInfo) {tb : TimeBase} {m : MediaSource D B}
    (h : m.Untold tb) : Blind info tb readContainer m := by
  obtain ⟨r, d, hread⟩ : ∃ r d, readFrame B m.fmtCtx = (r, d) := ⟨_, _, rfl⟩
  have hread' : readFrame B (m.retouch info tb).fmtCtx = (r, d) := hread
  unfold Blind readContainer
  rw [hread, hread']
  cases r with
  | none =>
      cases hb : m.bsfCtx with
      | none => simp [retouch, hb]
      | some b => simp [retouch, hb]
  | some p =>
      by_cases hp : p.streamIndex = m.videoIdx
      · cases hb : m.bsfCtx with
        | none => simp [retouch, hb, hp, processPacket, toRTPTimestamp]
        | some b =>
            obtain ⟨ok, b', hsend⟩ : ∃ ok b', bsfSend D (some p) b = (ok, b') := ⟨_, _, rfl⟩
            cases ok <;> simp [retouch, hb, hp, hsend]
      · have hother := otherPacket_retouch info p (m := { m with fmtCtx := d }) h
        have haudio := otherPacket_audio p { m with fmtCtx := d }
        simp only [retouch, ne_eq, hp, not_false_eq_true, if_true] at hother ⊢
        exact ⟨congrArg _ hother, haudio⟩

theorem readRound_blind (info : H264StreamInfo) {tb : TimeBase} {m : MediaSource D B}
    (h : m.Untold tb) : Blind info tb readRound m := by
  unfold Blind readRound
  cases hb : m.bsfCtx with
  | none =>
      rw [show (m.retouch info tb).bsfCtx = none from hb]
      exact readContainer_blind info h
  | some b =>
      obtain ⟨res, b', hrec⟩ : ∃ res b', bsfReceive D b = (res, b') := ⟨_, _, rfl⟩
      rw [show (m.retouch info tb).bsfCtx = some b from hb]
      dsimp only
      rw [hrec]
      cases res with
      | packet p => exact ⟨rfl, rfl, rfl⟩
      | eof | error => exact ⟨rfl, rfl, rfl⟩
      | eagain =>
          dsimp only
          by_cases heof : m.bsfAtEof = true
          · rw [if_pos heof, if_pos (show (m.retouch info tb).bsfAtEof = true from heof)]
            exact ⟨rfl, rfl, rfl⟩
          · rw [if_neg heof, if_neg (show ¬ (m.retouch info tb).bsfAtEof = true from heof)]
            exact readContainer_blind (m := { m with bsfCtx := some b' }) info h

theorem readLoop_blind (info : H264StreamInfo) {tb : TimeBase} (fuel : Nat) {m : MediaSource D B}
    (h : m.Untold tb) : Blind info tb (readLoop fuel) m := by
  induction fuel generalizing m with
  | zero => exact ⟨rfl, rfl, rfl⟩
  | succ fuel ih =>
      obtain ⟨hround, hidx, htb⟩ := readRound_blind info h
      unfold Blind readLoop
      rw [hround]
      obtain ⟨r, m', heq⟩ : ∃ r m', m.readRound = (r, m') := ⟨_, _, rfl⟩
      rw [heq] at hidx htb ⊢
      cases r with
      | some r => exact ⟨rfl, hidx, htb⟩
      | none =>
          have hkept : m'.Untold tb := fun h' => htb.trans (h (hidx ▸ h'))
          obtain ⟨hrest, hidx', htb'⟩ := ih hkept
          exact ⟨hrest, hidx'.trans hidx, htb'.trans htb⟩

theorem readPacket_blind (info : H264StreamInfo) {tb : TimeBase} {m : MediaSource D B}
    (h : m.Untold tb) : Blind info tb readPacket m := by
  unfold Blind readPacket
  cases hvp : m.prefetchVp with
  | some vp =>
      rw [show (m.retouch info tb).prefetchVp = some vp from hvp]
      exact ⟨rfl, rfl, rfl⟩
  | none =>
      rw [show (m.retouch info tb).prefetchVp = none from hvp]
      exact readLoop_blind info _ h

omit [FFmpeg D B] in
theorem readAudioPacket_blind (info : H264StreamInfo) (tb : TimeBase) (m : MediaSource D B) :
    Blind info tb readAudioPacket m := by
  unfold Blind readAudioPacket
  rw [show (m.retouch info tb).audioIdx = m.audioIdx from rfl,
    show (m.retouch info tb).audioQueue = m.audioQueue from rfl]
  split
  · exact ⟨rfl, rfl, rfl⟩
  · split
    · exact ⟨rfl, rfl, rfl⟩
    · exact ⟨rfl, rfl, rfl⟩

theorem peekNext_blind (info : H264StreamInfo) {tb : TimeBase} {m : MediaSource D B}
    (h : m.Untold tb) : Blind info tb peekNextVideoRTPTimestamp m := by
  obtain ⟨hread, hidx, htb⟩ := readPacket_blind info h
  unfold Blind peekNextVideoRTPTimestamp
  cases hvp : m.prefetchVp with
  | some vp =>
      rw [show (m.retouch info tb).prefetchVp = some vp from hvp]
      exact ⟨rfl, rfl, rfl⟩
  | none =>
      rw [show (m.retouch info tb).prefetchVp = none from hvp]
      dsimp only
      rw [hread]
      obtain ⟨r, m', heq⟩ : ∃ r m', m.readPacket = (r, m') := ⟨_, _, rfl⟩
      rw [heq] at hidx htb ⊢
      cases r with
      | none => exact ⟨rfl, hidx, htb⟩
      | some vp => exact ⟨rfl, hidx, htb⟩

theorem seekToSeconds_retouch (info : H264StreamInfo) (tb : TimeBase) (secs : Rat)
    (m : MediaSource D B) :
    (m.retouch info tb).seekToSeconds secs = (m.seekToSeconds secs).retouch info tb := by
  unfold seekToSeconds
  by_cases hneg : secs < 0
  · rw [if_pos hneg, if_pos hneg]
    rfl
  · rw [if_neg hneg, if_neg hneg]
    obtain ⟨ok, d, hseek⟩ : ∃ ok d, seekFrame B (targetTs secs m.timeBase) m.fmtCtx = (ok, d) :=
      ⟨_, _, rfl⟩
    simp only [flushBsf, retouch, hseek]
    cases ok with
    | false => rfl
    | true => rfl

theorem seekToSeconds_audio (secs : Rat) (m : MediaSource D B) :
    (m.seekToSeconds secs).audioIdx = m.audioIdx ∧
      (m.seekToSeconds secs).audioTimeBase = m.audioTimeBase ∧
      (m.seekToSeconds secs).videoIdx = m.videoIdx := by
  unfold seekToSeconds
  dsimp only
  repeat' split
  all_goals exact ⟨rfl, rfl, rfl⟩

/-! ## The video stream stays -/

theorem readLoop_videoIdx (fuel : Nat) (m : MediaSource D B) :
    (m.readLoop fuel).2.videoIdx = m.videoIdx := by
  induction fuel generalizing m with
  | zero => rfl
  | succ fuel ih =>
      have hround := (ask_supply m).2
      rw [readLoop]
      split
      · next r m' heq =>
          rw [heq] at hround
          exact hround
      · next m' heq =>
          rw [heq] at hround
          exact (ih m').trans hround

theorem readPacket_videoIdx (m : MediaSource D B) : m.readPacket.2.videoIdx = m.videoIdx := by
  unfold readPacket
  split
  · rfl
  · exact readLoop_videoIdx _ m

theorem peekNext_videoIdx (m : MediaSource D B) :
    m.peekNextVideoRTPTimestamp.2.videoIdx = m.videoIdx := by
  have hread := readPacket_videoIdx m
  unfold peekNextVideoRTPTimestamp
  split
  · rfl
  · split
    · next m' heq =>
        rw [heq] at hread
        exact hread
    · next vp m' heq =>
        rw [heq] at hread
        exact hread

end MediaSource

/-! ## The calls -/

/-- A call on a `MediaSource`, with what the allocations in it give. -/
inductive ObjectCall where
  | openSource (path : Bytes) (alloc : Allocs)
  | close
  | isOpen
  | duration
  | readPacket
  | readAudioPacket
  | seek (offset : UInt32)
  | seekToSeconds (secs : Rat) (probePkt : Bool)
  | adjustRTPOffset (delta : UInt32)
  | peekNextVideoRTPTimestamp

inductive ObjectAnswer where
  | done
  | bool (b : Bool)
  | secs (r : Rat)
  | video (vp : Option VideoPacket)
  | audio (ap : Option AudioPacket)
  | timestamp (ts : UInt32)
  deriving DecidableEq

variable {D B : Type} [FFmpegOpen D B]

open FFmpeg FFmpegOpen

def MediaObject.call (o : MediaObject D B) : ObjectCall → Option (ObjectAnswer × MediaObject D B)
  | .openSource path alloc => (o.openSource path alloc).map fun r => (.bool r.1, r.2)
  | .close => some (.done, o.close)
  | .isOpen => some (.bool o.isOpen, o)
  | .duration => some (.secs o.durationSecs, o)
  | .readPacket => o.readPacket.map fun r => (.video r.1, r.2)
  | .readAudioPacket => some (.audio o.readAudioPacket.1, o.readAudioPacket.2)
  | .seek offset => some (.done, o.seek offset)
  | .seekToSeconds secs probePkt => (o.seekToSeconds secs probePkt).map fun o => (.done, o)
  | .adjustRTPOffset delta => some (.done, o.adjustRTPOffset delta)
  | .peekNextVideoRTPTimestamp =>
      o.peekNextVideoRTPTimestamp.map fun r => (.timestamp r.1, r.2)

/-- What `close` leaves of a file. -/
structure Kept where
  streamInfo : H264StreamInfo
  audioTimeBase : TimeBase
  /-- a frame that was peeked at and not read -/
  waiting : Option VideoPacket

/-- What a new object has. -/
def Kept.nothing : Kept := ⟨MediaSource.noSets, ⟨1, 44100, Nat.one_pos, audioRate_pos⟩, none⟩

/-- The container at a path and its video stream, if it has one in H.264. -/
def h264Stream (D B : Type) [FFmpegOpen D B] (path : Bytes) : Option (D × AVStream) :=
  match openInput B path with
  | none => none
  | some d =>
      let d := findStreamInfo B d
      let st := streamAt B (findBestStream B .video d) d
      if 0 ≤ findBestStream B .video d ∧ st.isH264 then some (d, st) else none

/-- The filter that a stream is read through: none for Annex B, and no source where it needs one
    and cannot get it. -/
def filterFor (D : Type) {B : Type} [FFmpegOpen D B] (st : AVStream) : Option (Option B) :=
  if MediaObject.isAvcc st.extradata then ((makeBsf D).bind (bsfInit D st)).map some else some none

/-- The parameters of a stream, on top of those that were there. -/
def describedBy (B : Type) {D : Type} [FFmpegOpen D B] (d : D) (st : AVStream)
    (info : H264StreamInfo) : H264StreamInfo :=
  ((MediaSource.parseExtradata st.extradata (MediaObject.measured (B := B) d st info)).map
    Prod.snd).getD info

/-- The audio stream that is used: its index and its parameters. -/
def audioOf (B : Type) {D : Type} [FFmpegOpen D B] (audioPkt : Bool) (d : D) :
    Int × AudioStreamInfo :=
  let idx := findBestStream B .audio d
  let st := streamAt B idx d
  if 0 ≤ idx ∧ audioPkt then
    (idx,
      { present := true, sampleRate := st.sampleRate, channels := st.channels
        asc := if 2 ≤ st.extradata.length then st.extradata else [] })
  else (-1, noAudio)

/-- The source that `open` makes: at the start of the file, with nothing queued. -/
def opened (path : Bytes) (alloc : Allocs) (kept : Kept) : Option (MediaSource D B) :=
  match h264Stream D B path with
  | none => none
  | some (d, st) =>
      match filterFor D st with
      | none => none
      | some filter =>
          if alloc.pkt then
            some
              { fmtCtx := d, bsfCtx := filter, videoIdx := findBestStream B .video d
                timeBase := st.timeBase, streamInfo := describedBy B d st kept.streamInfo
                audioInfo := (audioOf B alloc.audioPkt d).2
                audioIdx := (audioOf B alloc.audioPkt d).1
                audioTimeBase :=
                  if 0 ≤ findBestStream B .audio d then
                    (streamAt B (findBestStream B .audio d) d).timeBase
                  else kept.audioTimeBase
                audioFirstPts := avNoPtsValue, audioRtpOffset := 0, audioQueue := []
                rtpOffset := 0, firstPts := avNoPtsValue, bsfAtEof := false
                prefetchVp := kept.waiting }
          else none

/-- What an `open` that fails leaves. -/
def notOpened (D B : Type) [FFmpegOpen D B] (path : Bytes) (kept : Kept) : Kept :=
  match h264Stream D B path with
  | none => kept
  | some (d, st) => { kept with streamInfo := describedBy B d st kept.streamInfo }

/-- A `MediaSource` as its user knows it. -/
inductive Life (D B : Type) where
  | shut (kept : Kept)
  | live (m : MediaSource D B)

namespace Life

omit [FFmpegOpen D B] in
/-- What is left of it by `close`. -/
def kept : Life D B → Kept
  | .shut kept => kept
  | .live m => ⟨m.streamInfo, m.audioTimeBase, m.prefetchVp⟩

def call (l : Life D B) : ObjectCall → Option (ObjectAnswer × Life D B)
  | .openSource path alloc =>
      match opened path alloc l.kept with
      | some m => some (.bool true, .live m)
      | none => some (.bool false, .shut (notOpened D B path l.kept))
  | .close => some (.done, .shut l.kept)
  | .isOpen =>
      match l with
      | .shut _ => some (.bool false, l)
      | .live _ => some (.bool true, l)
  | .duration =>
      match l with
      | .shut _ => some (.secs 0, l)
      | .live m =>
          some (.secs (if FFmpegOpen.duration B m.fmtCtx = avNoPtsValue then 0
            else (FFmpegOpen.duration B m.fmtCtx : Rat) / 1000000), l)
  | .readPacket =>
      match l with
      | .shut kept => some (.video kept.waiting, .shut { kept with waiting := none })
      | .live m => some (.video m.readPacket.1, .live m.readPacket.2)
  | .readAudioPacket =>
      match l with
      | .shut _ => some (.audio none, l)
      | .live m => some (.audio m.readAudioPacket.1, .live m.readAudioPacket.2)
  | .seek offset =>
      match l with
      | .shut _ => some (.done, l)
      | .live m => some (.done, .live (m.seek offset))
  | .seekToSeconds secs probePkt =>
      match l with
      | .shut _ => some (.done, l)
      | .live m =>
          if 0 ≤ secs ∧ (seekFrame B (MediaSource.targetTs secs m.timeBase) m.fmtCtx).1 = true ∧
              probePkt = false then none
          else some (.done, .live (m.seekToSeconds secs))
  | .adjustRTPOffset delta =>
      match l with
      | .shut _ => some (.done, l)
      | .live m => some (.done, .live (m.adjustRTPOffset delta))
  | .peekNextVideoRTPTimestamp =>
      match l with
      | .shut _ => some (.timestamp 0, l)
      | .live m =>
          some (.timestamp m.peekNextVideoRTPTimestamp.1, .live m.peekNextVideoRTPTimestamp.2)

end Life

/-! ## The object is its life -/

namespace MediaObject

omit [FFmpegOpen D B] in
/-- What `close` leaves of the object. -/
def kept (o : MediaObject D B) : Kept := ⟨o.streamInfo, o.audioTimeBase, o.prefetchVp⟩

/-- The object of an opened source. -/
def ofSource (audioPkt : Bool) (m : MediaSource D B) : MediaObject D B :=
  { fmtCtx := some m.fmtCtx, bsfCtx := m.bsfCtx, pkt := true, videoIdx := m.videoIdx
    timeBase := m.timeBase, streamInfo := m.streamInfo, audioInfo := m.audioInfo
    audioIdx := m.audioIdx, audioTimeBase := m.audioTimeBase, audioFirstPts := m.audioFirstPts
    audioRtpOffset := m.audioRtpOffset, audioPkt := audioPkt, audioQueue := m.audioQueue
    rtpOffset := m.rtpOffset, firstPts := m.firstPts, bsfAtEof := m.bsfAtEof
    prefetchVp := m.prefetchVp }

/-- Every handle is null. -/
structure Shut (o : MediaObject D B) (kept : Kept) : Prop where
  fmtCtx : o.fmtCtx = none
  bsfCtx : o.bsfCtx = none
  pkt : o.pkt = false
  audioPkt : o.audioPkt = false
  audioIdx : o.audioIdx = -1
  kept : o.kept = kept

/-- The object is in that state of its life. -/
def Shows (o : MediaObject D B) : Life D B → Prop
  | .shut kept => o.Shut kept
  | .live m => 0 ≤ m.videoIdx ∧ ∃ audioPkt, o = ofSource audioPkt m

omit [FFmpegOpen D B] in
theorem shut_new : (new : MediaObject D B).Shut .nothing := ⟨rfl, rfl, rfl, rfl, rfl, rfl⟩

omit [FFmpegOpen D B] in
theorem shows_new : (new : MediaObject D B).Shows (.shut .nothing) := shut_new

omit [FFmpegOpen D B] in
theorem shut_close (o : MediaObject D B) : o.close.Shut o.kept := ⟨rfl, rfl, rfl, rfl, rfl, rfl⟩

omit [FFmpegOpen D B] in
theorem kept_of_shows {o : MediaObject D B} {l : Life D B} (h : o.Shows l) :
    o.kept = l.kept := by
  cases l with
  | shut kept => exact Shut.kept h
  | live m =>
      obtain ⟨-, audioPkt, rfl⟩ := h
      rfl

theorem isAvcc_filter (st : AVStream) (o : MediaObject D B) :
    (∀ filter, filterFor D st = some filter → o.bsfCtx = none →
        installBsf st o = (true, { o with bsfCtx := filter })) ∧
      (filterFor D st = (none : Option (Option B)) →
        installBsf st o = (false, { o with bsfCtx := none, fmtCtx := none }) ∨
          installBsf st o = (false, { o with fmtCtx := none })) := by
  unfold filterFor installBsf
  split
  · cases hmake : (makeBsf D : Option B) with
    | none => simp
    | some b =>
        cases hinit : bsfInit D st b with
        | none => simp [hinit]
        | some b' => simp [hinit]
  · refine ⟨fun filter hf hb => ?_, fun hf => by cases hf⟩
    obtain rfl := Option.some.inj hf
    rw [← hb]

theorem openAudio_eq (audioPkt : Bool) (d : D) {o : MediaObject D B}
    (hinfo : o.audioInfo = noAudio) (hpkt : o.audioPkt = false) :
    openAudio audioPkt d o =
      { o with
        audioIdx := (audioOf B audioPkt d).1
        audioInfo := (audioOf B audioPkt d).2
        audioTimeBase :=
          if 0 ≤ findBestStream B .audio d then (streamAt B (findBestStream B .audio d) d).timeBase
          else o.audioTimeBase
        audioPkt := decide (0 ≤ findBestStream B .audio d) && audioPkt } := by
  unfold openAudio audioOf
  dsimp only
  by_cases hidx : 0 ≤ findBestStream B .audio d
  · cases audioPkt with
    | false => simp [hidx]
    | true => simp [hidx, hinfo, noAudio]
  · simp [hidx, hinfo, hpkt]

/-- The object that `open` has once it looked for the video stream. -/
def searched (d : D) (o : MediaObject D B) : MediaObject D B :=
  { o.close with fmtCtx := some d, videoIdx := findBestStream B .video d }

/-- `open` makes the source that the file says, or leaves every handle null. -/
theorem openSource_cases (path : Bytes) (alloc : Allocs) (o : MediaObject D B) :
    (∃ m audioPkt, opened path alloc o.kept = some m ∧ 0 ≤ m.videoIdx ∧
      o.openSource path alloc = some (true, ofSource audioPkt m)) ∨
    (opened (D := D) (B := B) path alloc o.kept = none ∧
      ∃ o', o.openSource path alloc = some (false, o') ∧ o'.Shut (notOpened D B path o.kept)) := by
  unfold openSource opened notOpened h264Stream
  cases hinput : (openInput B path : Option D) with
  | none => exact .inr ⟨rfl, _, rfl, shut_close o⟩
  | some d₀ =>
      dsimp only
      generalize findStreamInfo B d₀ = d
      obtain ⟨o', ho⟩ : ∃ o', o' = searched d o := ⟨_, rfl⟩
      have hidx' : findBestStream B .video d = o'.videoIdx := by rw [ho]; rfl
      have hinfo' : o.kept.streamInfo = o'.streamInfo := by rw [ho]; rfl
      rw [show ({ o.close with fmtCtx := some d, videoIdx := findBestStream B .video d } :
        MediaObject D B) = o' from ho.symm, hidx', hinfo']
      unfold openStreams
      by_cases hidx : 0 ≤ o'.videoIdx
      swap
      · rw [if_pos (Int.not_le.mp hidx), if_neg fun h => hidx h.1]
        exact .inr ⟨rfl, _, rfl, by subst ho; exact ⟨rfl, rfl, rfl, rfl, rfl, rfl⟩⟩
      rw [if_neg (Int.not_lt.mpr hidx)]
      generalize streamAt B o'.videoIdx d = st
      by_cases hcodec : st.isH264 = true
      swap
      · rw [if_neg fun h => hcodec h.2]
        dsimp only
        rw [if_pos (Bool.eq_false_iff.mpr hcodec)]
        exact .inr ⟨rfl, _, rfl, by subst ho; exact ⟨rfl, rfl, rfl, rfl, rfl, rfl⟩⟩
      rw [if_pos ⟨hidx, hcodec⟩]
      dsimp only
      rw [if_neg (show ¬ st.isH264 = false by simp [hcodec])]
      obtain ⟨ok, sps, pps, hparse⟩ := MediaSource.exists_parseExtradata st.extradata
        (measured (B := B) d st o'.streamInfo)
      generalize ({ measured (B := B) d st o'.streamInfo with sps := sps, pps := pps } :
        H264StreamInfo) = info at hparse
      have hinfo : describedBy B d st o'.streamInfo = info := by
        unfold describedBy
        rw [hparse]
        rfl
      rw [hparse, hinfo]
      dsimp only
      obtain ⟨hgoes, hstops⟩ := isAvcc_filter st
        { o' with timeBase := st.timeBase, streamInfo := info }
      cases hfilter : (filterFor D st : Option (Option B)) with
      | none =>
          refine .inr ⟨rfl, ?_⟩
          rcases hstops hfilter with h | h
          · rw [h]
            exact ⟨_, rfl, by subst ho; exact ⟨rfl, rfl, rfl, rfl, rfl, rfl⟩⟩
          · rw [h]
            exact ⟨_, rfl, by subst ho; exact ⟨rfl, rfl, rfl, rfl, rfl, rfl⟩⟩
      | some filter =>
          rw [hgoes filter hfilter (by rw [ho]; rfl)]
          dsimp only
          by_cases hpkt : alloc.pkt = true
          · rw [if_pos hpkt, if_pos hpkt, openAudio_eq]
            · exact .inl ⟨_, _, rfl, hidx.trans_eq hidx'.symm, by subst ho; rfl⟩
            · rw [ho]; rfl
            · rw [ho]; rfl
          · rw [if_neg hpkt, if_neg hpkt]
            exact .inr ⟨rfl, _, rfl, by subst ho; exact ⟨rfl, rfl, rfl, rfl, rfl, rfl⟩⟩

/-- A call of a live object goes on with the model of the source. -/
theorem readPacket_ofSource (audioPkt : Bool) (m : MediaSource D B) :
    (ofSource audioPkt m).readPacket = some (m.readPacket.1, ofSource audioPkt m.readPacket.2) := by
  unfold readPacket MediaSource.readPacket
  rw [show (ofSource audioPkt m).prefetchVp = m.prefetchVp from rfl]
  cases m.prefetchVp with
  | some vp => rfl
  | none => rfl

theorem seekToSeconds_ofSource (secs : Rat) (probePkt audioPkt : Bool) {m : MediaSource D B}
    (h : 0 ≤ m.videoIdx) :
    (ofSource audioPkt m).seekToSeconds secs probePkt =
      if 0 ≤ secs ∧ (seekFrame B (MediaSource.targetTs secs m.timeBase) m.fmtCtx).1 = true ∧
          probePkt = false then none
      else some (ofSource audioPkt (m.seekToSeconds secs)) := by
  have hback : secs < 0 → m.seekToSeconds secs = m.seek 0 := by
    intro hneg
    rw [MediaSource.seekToSeconds, if_pos hneg]
  unfold seekToSeconds
  rw [show (ofSource audioPkt m).fmtCtx = some m.fmtCtx from rfl]
  dsimp only
  rw [show (ofSource audioPkt m).source m.fmtCtx = m from rfl]
  by_cases hneg : secs < 0
  · rw [if_pos hneg, if_neg fun h => absurd h.1 (not_le.mpr hneg), hback hneg]
    rfl
  · rw [if_neg hneg, if_neg (Int.not_lt.mpr h)]
    have hpos : 0 ≤ secs := not_lt.mp hneg
    cases (seekFrame B (MediaSource.targetTs secs m.timeBase) m.fmtCtx).1 with
    | false => simp; rfl
    | true =>
        cases probePkt with
        | false => simp [hpos]
        | true => simp; rfl

theorem peekNext_ofSource (audioPkt : Bool) (m : MediaSource D B) :
    (ofSource audioPkt m).peekNextVideoRTPTimestamp =
      some (m.peekNextVideoRTPTimestamp.1, ofSource audioPkt m.peekNextVideoRTPTimestamp.2) := by
  unfold peekNextVideoRTPTimestamp MediaSource.peekNextVideoRTPTimestamp
  rw [show (ofSource audioPkt m).fmtCtx = some m.fmtCtx from rfl,
    show (ofSource audioPkt m).prefetchVp = m.prefetchVp from rfl]
  cases m.prefetchVp with
  | some vp => rfl
  | none =>
      dsimp only
      rw [readPacket_ofSource]
      obtain ⟨r, m', hread⟩ : ∃ r m', m.readPacket = (r, m') := ⟨_, _, rfl⟩
      rw [hread]
      cases r with
      | none => rfl
      | some vp => rfl

omit [FFmpegOpen D B] in
theorem readAudioPacket_ofSource (audioPkt : Bool) (m : MediaSource D B) :
    (ofSource audioPkt m).readAudioPacket =
      (m.readAudioPacket.1, ofSource audioPkt m.readAudioPacket.2) := by
  unfold readAudioPacket MediaSource.readAudioPacket
  rw [show (ofSource audioPkt m).audioIdx = m.audioIdx from rfl,
    show (ofSource audioPkt m).audioQueue = m.audioQueue from rfl]
  by_cases hidx : m.audioIdx < 0
  · rw [if_pos hidx, if_pos hidx]
  · rw [if_neg hidx, if_neg hidx]
    cases m.audioQueue with
    | nil => rfl
    | cons ap rest => rfl

theorem call_live (c : ObjectCall) (audioPkt : Bool) {m : MediaSource D B} (h : 0 ≤ m.videoIdx) :
    Option.Rel (Same Shows) ((ofSource audioPkt m).call c) ((Life.live m).call c) := by
  have hlive : ∀ m' : MediaSource D B, m'.videoIdx = m.videoIdx →
      (ofSource audioPkt m').Shows (.live m') := fun m' hidx => ⟨hidx ▸ h, audioPkt, rfl⟩
  cases c with
  | openSource path alloc =>
      unfold call Life.call
      dsimp only
      rw [show (Life.live m).kept = (ofSource audioPkt m).kept from rfl]
      rcases openSource_cases path alloc (ofSource audioPkt m) with
        ⟨m', audioPkt', hopened, hidx, hopen⟩ | ⟨hopened, o', hopen, hshut⟩
      · rw [hopened, hopen]
        exact .some ⟨rfl, hidx, audioPkt', rfl⟩
      · rw [hopened, hopen]
        exact .some ⟨rfl, hshut⟩
  | close => exact .some ⟨rfl, shut_close _⟩
  | isOpen => exact .some ⟨rfl, hlive m rfl⟩
  | duration => exact .some ⟨rfl, hlive m rfl⟩
  | readPacket =>
      unfold call Life.call
      dsimp only
      rw [readPacket_ofSource]
      exact .some ⟨rfl, hlive _ m.readPacket_videoIdx⟩
  | readAudioPacket =>
      unfold call Life.call
      dsimp only
      rw [readAudioPacket_ofSource]
      refine .some ⟨rfl, hlive _ ?_⟩
      unfold MediaSource.readAudioPacket
      repeat' split
      all_goals rfl
  | seek offset => exact .some ⟨rfl, hlive _ rfl⟩
  | seekToSeconds secs probePkt =>
      unfold call Life.call
      dsimp only
      rw [seekToSeconds_ofSource secs probePkt audioPkt h]
      split
      · exact .none
      · exact .some ⟨rfl, hlive _ (m.seekToSeconds_audio secs).2.2⟩
  | adjustRTPOffset delta => exact .some ⟨rfl, hlive _ rfl⟩
  | peekNextVideoRTPTimestamp =>
      unfold call Life.call
      dsimp only
      rw [peekNext_ofSource]
      exact .some ⟨rfl, hlive _ m.peekNext_videoIdx⟩

theorem call_shut (c : ObjectCall) {o : MediaObject D B} {kept : Kept} (h : o.Shut kept) :
    Option.Rel (Same Shows) (o.call c) ((Life.shut kept : Life D B).call c) := by
  obtain rfl := h.kept
  have hstays : ∀ o' : MediaObject D B, o'.fmtCtx = none → o'.bsfCtx = none → o'.pkt = false →
      o'.audioPkt = false → o'.audioIdx = -1 → o'.Shows (.shut o'.kept) :=
    fun o' hf hb hp ha hi => ⟨hf, hb, hp, ha, hi, rfl⟩
  cases c with
  | openSource path alloc =>
      unfold call Life.call
      dsimp only
      rw [show (Life.shut o.kept : Life D B).kept = o.kept from rfl]
      rcases openSource_cases path alloc o with
        ⟨m', audioPkt', hopened, hidx, hopen⟩ | ⟨hopened, o', hopen, hshut⟩
      · rw [hopened, hopen]
        exact .some ⟨rfl, hidx, audioPkt', rfl⟩
      · rw [hopened, hopen]
        exact .some ⟨rfl, hshut⟩
  | close => exact .some ⟨rfl, shut_close _⟩
  | isOpen =>
      unfold call isOpen
      rw [h.fmtCtx]
      exact .some ⟨rfl, h⟩
  | duration =>
      unfold call durationSecs
      rw [h.fmtCtx]
      exact .some ⟨rfl, h⟩
  | readPacket =>
      unfold call readPacket Life.call
      dsimp only
      cases hvp : o.prefetchVp with
      | some vp =>
          refine .some ⟨congrArg ObjectAnswer.video hvp.symm, ?_⟩
          exact ⟨h.fmtCtx, h.bsfCtx, h.pkt, h.audioPkt, h.audioIdx, rfl⟩
      | none =>
          dsimp only
          rw [if_pos h.pkt]
          refine .some ⟨congrArg ObjectAnswer.video hvp.symm, ?_⟩
          exact ⟨h.fmtCtx, h.bsfCtx, h.pkt, h.audioPkt, h.audioIdx, by rw [← hvp]; rfl⟩
  | readAudioPacket =>
      unfold call readAudioPacket
      rw [if_pos (by rw [h.audioIdx]; decide)]
      exact .some ⟨rfl, h⟩
  | seek offset =>
      unfold call seek
      rw [h.fmtCtx]
      exact .some ⟨rfl, h⟩
  | seekToSeconds secs probePkt =>
      unfold call seekToSeconds seek
      rw [h.fmtCtx]
      exact .some ⟨rfl, h⟩
  | adjustRTPOffset delta =>
      exact .some ⟨rfl, h.fmtCtx, h.bsfCtx, h.pkt, h.audioPkt, h.audioIdx, rfl⟩
  | peekNextVideoRTPTimestamp =>
      unfold call peekNextVideoRTPTimestamp
      rw [h.fmtCtx]
      exact .some ⟨rfl, h⟩

theorem call_shows (c : ObjectCall) {o : MediaObject D B} {l : Life D B} (h : o.Shows l) :
    Option.Rel (Same Shows) (o.call c) (l.call c) := by
  cases l with
  | shut kept => exact call_shut c h
  | live m =>
      obtain ⟨hidx, audioPkt, rfl⟩ := h
      exact call_live c audioPkt hidx

/-- **The object is its life**: over every order of calls, with whatever library and whatever
    allocations, the object answers as its `Life` does and is in the state that it says; and only
    a seek whose probe has no packet goes on with a null pointer. -/
theorem calls_refine (cs : List ObjectCall) :
    Option.Rel (Same Shows) (answers call (new : MediaObject D B) cs)
        (answers Life.call (.shut .nothing) cs) ∧
      (answers call (new : MediaObject D B) cs = none → ∃ secs, .seekToSeconds secs false ∈ cs) := by
  have hrel : Option.Rel (Same Shows) (answers call (new : MediaObject D B) cs)
      (answers Life.call (.shut .nothing) cs) :=
    answers_related (fun _ _ c h => call_shows c h) shows_new cs
  refine ⟨hrel, fun hnone => ?_⟩
  have hlife : answers Life.call (.shut .nothing : Life D B) cs = none := by
    generalize answers Life.call (.shut .nothing : Life D B) cs = y at hrel ⊢
    rw [hnone] at hrel
    cases hrel
    rfl
  obtain ⟨l, c, hc, hstop⟩ := exists_of_answers_none hlife
  cases c with
  | seekToSeconds secs probePkt =>
      cases l with
      | shut kept => cases hstop
      | live m =>
          unfold Life.call at hstop
          dsimp only at hstop
          split at hstop
          · next h => exact ⟨secs, h.2.2 ▸ hc⟩
          · cases hstop
  | openSource path alloc =>
      unfold Life.call at hstop
      dsimp only at hstop
      split at hstop
      · cases hstop
      · cases hstop
  | close => cases hstop
  | isOpen | duration | readPacket | readAudioPacket | seek | adjustRTPOffset
  | peekNextVideoRTPTimestamp => cases l <;> cases hstop

end MediaObject

/-! ## An object that is used again -/

namespace Life

/-- The same to a reader: only parameters that no answer depends on may differ. -/
def Alike : Life D B → Life D B → Prop
  | .shut kept, .shut kept' => kept.waiting = kept'.waiting
  | .live m, .live n => ∃ info tb, n = m.retouch info tb ∧ m.Untold tb
  | _, _ => False

theorem opened_alike (path : Bytes) (alloc : Allocs) {kept kept' : Kept}
    (h : kept.waiting = kept'.waiting) :
    Option.Rel (fun m n : MediaSource D B => ∃ info tb, n = m.retouch info tb ∧ m.Untold tb)
      (opened path alloc kept) (opened path alloc kept') := by
  unfold opened
  cases h264Stream D B path with
  | none => exact .none
  | some r =>
      obtain ⟨d, st⟩ := r
      dsimp only
      cases (filterFor D st : Option (Option B)) with
      | none => exact .none
      | some filter =>
          dsimp only
          split
          · refine .some ⟨_, _, by rw [h]; rfl, fun haudio => ?_⟩
            have hidx : 0 ≤ findBestStream B .audio d := by
              unfold audioOf at haudio
              dsimp only at haudio
              split at haudio
              · next hused => exact hused.1
              · exact absurd haudio (by decide)
            dsimp only
            rw [if_pos hidx, if_pos hidx]
          · exact .none

/-- `open` on two objects with the same frame waiting. -/
theorem call_open_alike (path : Bytes) (alloc : Allocs) {l l' : Life D B}
    (h : l.kept.waiting = l'.kept.waiting) :
    Option.Rel (Same Alike) (l.call (.openSource path alloc)) (l'.call (.openSource path alloc)) := by
  have hopened := opened_alike (D := D) (B := B) path alloc h
  have hwaits : ∀ kept : Kept, (notOpened D B path kept).waiting = kept.waiting := by
    intro kept
    unfold notOpened
    split <;> rfl
  unfold call
  dsimp only
  generalize (opened path alloc l.kept : Option (MediaSource D B)) = x,
    (opened path alloc l'.kept : Option (MediaSource D B)) = y at hopened ⊢
  cases hopened with
  | none => exact .some ⟨rfl, (hwaits _).trans (h.trans (hwaits _).symm)⟩
  | some hmn => exact .some ⟨rfl, hmn⟩

theorem call_alike (c : ObjectCall) {l l' : Life D B} (h : Alike l l') :
    Option.Rel (Same Alike) (l.call c) (l'.call c) := by
  cases l with
  | shut kept =>
      cases l' with
      | live n => cases h
      | shut kept' =>
          cases c with
          | openSource path alloc => exact call_open_alike path alloc h
          | readPacket => exact .some ⟨congrArg ObjectAnswer.video h, rfl⟩
          | close | isOpen | duration | readAudioPacket | seek | seekToSeconds | adjustRTPOffset
          | peekNextVideoRTPTimestamp => exact .some ⟨rfl, h⟩
  | live m =>
      cases l' with
      | shut kept' => cases h
      | live n =>
          obtain ⟨info, tb, rfl, htb⟩ := h
          have hkept : ∀ m' : MediaSource D B, m'.audioIdx = m.audioIdx →
              m'.audioTimeBase = m.audioTimeBase →
              Alike (.live m') (.live (m'.retouch info tb)) := by
            intro m' hidx hbase
            exact ⟨info, tb, rfl, fun h' => hbase.trans (htb (hidx ▸ h'))⟩
          cases c with
          | openSource path alloc => exact call_open_alike path alloc rfl
          | close => exact .some ⟨rfl, rfl⟩
          | isOpen | duration => exact .some ⟨rfl, hkept m rfl rfl⟩
          | readPacket =>
              obtain ⟨heq, hidx, hbase⟩ := MediaSource.readPacket_blind info htb
              unfold call
              dsimp only
              rw [heq]
              exact .some ⟨rfl, hkept _ hidx hbase⟩
          | readAudioPacket =>
              obtain ⟨heq, hidx, hbase⟩ := MediaSource.readAudioPacket_blind info tb m
              unfold call
              dsimp only
              rw [heq]
              exact .some ⟨rfl, hkept _ hidx hbase⟩
          | seek offset => exact .some ⟨rfl, hkept _ rfl rfl⟩
          | seekToSeconds secs probePkt =>
              obtain ⟨hidx, hbase, -⟩ := m.seekToSeconds_audio secs
              unfold call
              dsimp only
              rw [MediaSource.seekToSeconds_retouch,
                show (m.retouch info tb).timeBase = m.timeBase from rfl,
                show (m.retouch info tb).fmtCtx = m.fmtCtx from rfl]
              by_cases hprobe : 0 ≤ secs ∧
                  (seekFrame B (MediaSource.targetTs secs m.timeBase) m.fmtCtx).1 = true ∧
                  probePkt = false
              · rw [if_pos hprobe, if_pos hprobe]
                exact .none
              · rw [if_neg hprobe, if_neg hprobe]
                exact .some ⟨rfl, hkept _ hidx hbase⟩
          | adjustRTPOffset delta => exact .some ⟨rfl, hkept _ rfl rfl⟩
          | peekNextVideoRTPTimestamp =>
              obtain ⟨heq, hidx, hbase⟩ := MediaSource.peekNext_blind info htb
              unfold call
              dsimp only
              rw [heq]
              exact .some ⟨rfl, hkept _ hidx hbase⟩

end Life

namespace MediaObject

/-- **An object can be used again**: whatever was done with it, if no frame that was peeked at is
    waiting, then from the next `open` on it answers every order of calls as a new object does. -/
theorem reopened_as_new {history : List ObjectCall} {given : List ObjectAnswer}
    {o : MediaObject D B} (h : answers call new history = some (given, o))
    (hwaits : o.prefetchVp = none) (path : Bytes) (alloc : Allocs) (cs : List ObjectCall) :
    (answers call o (.openSource path alloc :: cs)).map Prod.fst =
      (answers call (new : MediaObject D B) (.openSource path alloc :: cs)).map Prod.fst := by
  obtain ⟨l, hl⟩ : ∃ l : Life D B, o.Shows l := by
    have hrel := (calls_refine (D := D) (B := B) history).1
    rw [h] at hrel
    generalize answers Life.call (.shut .nothing : Life D B) history = y at hrel
    cases hrel with
    | @some _ y hxy => exact ⟨y.2, hxy.2⟩
  have hsame : l.kept.waiting = (Life.shut .nothing : Life D B).kept.waiting := by
    rw [← kept_of_shows hl]
    exact hwaits
  have hold := answers_of_rel (answers_related (fun _ _ c h => call_shows c h) hl
    (.openSource path alloc :: cs))
  have hnew := answers_of_rel (answers_related (fun _ _ c h => call_shows c h)
    (shows_new (D := D) (B := B)) (.openSource path alloc :: cs))
  have hlives := answers_of_rel (Calls.answers_cons_related
    (fun _ _ h => answers_related (fun _ _ c h => Life.call_alike c h) h cs)
    (Life.call_open_alike path alloc hsame))
  exact hold.trans (hlives.trans hnew.symm)

end MediaObject

namespace PacketList

/-- Two frames of one NAL unit each. -/
def twoFrames : List AVPacket :=
  [{ streamIndex := 0, pts := 0, dts := 0, key := true, duration := 3600
     data := [0, 0, 1, 0x65, 0x88] },
   { streamIndex := 0, pts := 3600, dts := 3600, key := false, duration := 3600
     data := [0, 0, 1, 0x41, 0x9a] }]

/-- A library that knows one file: H.264 in Annex B, without audio. -/
instance : FFmpegOpen PacketList Unit where
  toFFmpeg := inferInstance
  openInput path := if path = ascii "/media/a.mp4" then some ⟨[], twoFrames⟩ else none
  findStreamInfo d := d
  findBestStream
    | .video, _ => 0
    | .audio, _ => -1
  streamAt _ _ :=
    { isH264 := true, timeBase := ⟨1, 90000, Nat.one_pos, clockRate_pos⟩, width := 640, height := 480
      extradata := [0, 0, 1, 0x67, 0x64, 0, 0x1f, 0, 0, 1, 0x68, 0xee], sampleRate := 0
      channels := 0 }
  duration _ := 80000
  makeBsf := none
  bsfInit _ b := some b

/-- An object that looked at a frame, read it and was closed. -/
def usedOnce : List ObjectCall :=
  [.openSource (ascii "/media/a.mp4") ⟨true, true⟩, .peekNextVideoRTPTimestamp, .readPacket, .close]

end PacketList

namespace MediaObject

theorem reopened_as_new_usedOnce : ∃ given o,
    answers call (new : MediaObject PacketList Unit) PacketList.usedOnce = some (given, o) ∧
      o.prefetchVp = none ∧
      (answers call o [.openSource (ascii "/media/a.mp4") ⟨true, true⟩, .readPacket]).map Prod.fst =
        (answers call (new : MediaObject PacketList Unit)
          [.openSource (ascii "/media/a.mp4") ⟨true, true⟩, .readPacket]).map Prod.fst := by
  obtain ⟨given, o, hused, hwaits⟩ : ∃ given o,
      answers call (new : MediaObject PacketList Unit) PacketList.usedOnce = some (given, o) ∧
        o.prefetchVp = none := ⟨_, _, rfl, rfl⟩
  exact ⟨given, o, hused, hwaits, reopened_as_new hused hwaits _ _ _⟩

end MediaObject

end RtspServer
