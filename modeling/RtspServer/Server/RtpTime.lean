/-
  RTP time over a change of Scale. A PLAY with a Scale header goes back to the last key frame
  that was sent; `last_video_rtp_` keeps the timestamp of the last frame, and the clock of the
  source is moved forward to it. The end of the source sets `last_video_rtp_` to 0, which also
  says that nothing was sent, and until the next frame the clock is then not moved.

  `Moves` is what a tick does with the frames, as far as their timestamps are concerned. `Tracks`
  is the invariant of `last_video_rtp_`, and `Awaits` what a seek leaves to the frame behind it.
-/
import RtspServer.Server.PassFrames
import RtspServer.Server.RestartOnKey

namespace RtspServer

open ByteString Session IMediaSource

/-! ## The frames of a tick -/

section

variable {M : Type} [IMediaSource M]

/-- What a tick does with the frames. Its events are `l`. -/
inductive Moves (s : Session M) (l : List Event) (s' : Session M) : Prop where
  /-- no frame is read or sent -/
  | rests (hsent : sentFrames l = []) (hsought : .sought ∉ l)
      (hsource : s'.mediaSource = s.mediaSource) (hfirst : s'.firstFrame = s.firstFrame)
      (hlast : s'.lastVideoRtp = s.lastVideoRtp)
      (hheld : s'.pendingVp = none ∨ s'.pendingVp = s.pendingVp)
  /-- a frame is read, and passed over or held -/
  | reads (source source' : M) (vp : VideoPacket) (hs : s.Streaming)
      (hsource : s.mediaSource = some source) (hnone : s.firstFrame = true ∨ s.pendingVp = none)
      (hread : readPacket source = (some vp, source'))
      (hsent : sentFrames l = []) (hsought : .sought ∉ l)
      (hsource' : s'.mediaSource = some source') (hfirst : s'.firstFrame = s.firstFrame)
      (hlast : s'.lastVideoRtp = s.lastVideoRtp)
      (hheld : s'.pendingVp = none ∨ s'.pendingVp = some vp)
  /-- the source is at its end -/
  | loops (source source' : M) (wall pause : Int) (hs : s.Streaming)
      (hsource : s.mediaSource = some source) (hnone : s.firstFrame = true ∨ s.pendingVp = none)
      (hread : readPacket source = (none, source'))
      (hl : l = [.sought])
      (heq : s' = { s with
        wallStart := wall, pauseStart := pause, pendingVp := none }.loopSource source')
  /-- a frame that was held or is read is sent -/
  | sends (source source' : M) (vp : VideoPacket) (n : Nat) (hs : s.Streaming)
      (hsource : s.mediaSource = some source)
      (hnext : s.firstFrame = false ∧ s.pendingVp = some vp ∧ source' = source ∨
        (s.firstFrame = true ∨ s.pendingVp = none) ∧ readPacket source = (some vp, source') ∧
          vp.nals ≠ [] ∧ (s.firstFrame = true → vp.isKeyFrame = true))
      (hsent : sentFrames l = [vp]) (hsought : .sought ∉ l)
      (hsource' : s'.mediaSource = some ((fun m => (readAudioPacket m).2)^[n] source'))
      (hfirst : s'.firstFrame = false) (hlast : s'.lastVideoRtp = vp.rtpTimestamp)
      (hheld : s'.pendingVp = none)

/-- The frame that a tick holds was held before, or it is read. -/
theorem Holds.next {now : Int} {source source' : M} {vp : VideoPacket} {s t : Session M}
    (h : Holds now source s vp source' t) :
    s.firstFrame = false ∧ s.pendingVp = some vp ∧ source' = source ∨
      (s.firstFrame = true ∨ s.pendingVp = none) ∧ readPacket source = (some vp, source') ∧
        vp.nals ≠ [] ∧ (s.firstFrame = true → vp.isKeyFrame = true) := by
  cases h with
  | kept _ _ _ _ hfirst hheld => exact .inl ⟨hfirst, hheld, rfl⟩
  | read _ _ _ _ _ hnone hread hnals hgate =>
      exact .inr ⟨hnone, hread, hnals, fun hff => hgate (.inl hff)⟩

/-- Steps 8 and 9 on the frame of a tick. `marks` are the events before. -/
theorem moves_deliver {env : Env M} {now : Int} {source source' : M} {vp : VideoPacket}
    {s t u : Session M} {l : List Event} (marks : List Event) (hs : s.Streaming)
    (hsource : s.mediaSource = some source) (h : Holds now source s vp source' t)
    (hmarks : sentFrames marks = []) (hsought : .sought ∉ marks) (hulog : u.log = s.log ++ marks)
    (hu : u.mediaSource = t.mediaSource) (hfirst : u.firstFrame = false)
    (hlog : (u.deliver env now source' vp).log = s.log ++ l) :
    Moves s l (u.deliver env now source' vp) := by
  obtain ⟨tail, hlog', htail, _, _, _, _, _, n, heq⟩ := deliver_spec env now source' vp u
  obtain rfl : l = marks ++ .sending vp :: tail := by
    rw [hlog', hulog, List.append_assoc] at hlog
    exact (List.append_cancel_left hlog).symm
  refine .sends source source' vp n hs hsource h.next ?_ ?_ ?_ ?_ ?_ ?_
  · rw [sentFrames_append, hmarks, sentFrames_sending vp htail]
    rfl
  · intro hmem
    rcases List.mem_append.mp hmem with hmem | hmem
    · exact hsought hmem
    · rcases List.mem_cons.mp hmem with hmem | hmem
      · cases hmem
      · exact Bool.noConfusion (htail _ hmem)
  · rw [heq]
    change u.mediaSource.map _ = _
    rw [hu, (h.facts hsource).1]
    rfl
  · rw [heq]
    exact hfirst
  · rw [heq]
    rfl
  · rw [heq]
    rfl

theorem moves_passes {now : Int} {source : M} {s s' : Session M} {l : List Event}
    (hs : s.Streaming) (hsource : s.mediaSource = some source) (h : Passes now source s s')
    (hlog : s'.log = s.log ++ l) : Moves s l s' := by
  cases h with
  | gated =>
      obtain rfl := List.self_eq_append_right.mp hlog
      exact .rests rfl (List.not_mem_nil) rfl rfl rfl (.inl rfl)
  | ended wall pause source' _ hnone hread =>
      exact .loops source source' wall pause hs hsource hnone hread
        (List.append_cancel_left hlog).symm rfl
  | skipped _ _ vp source' _ hnone hread =>
      obtain rfl := List.self_eq_append_right.mp hlog
      exact .reads source source' vp hs hsource hnone hread rfl (List.not_mem_nil) rfl rfl rfl
        (.inl rfl)
  | stopped _ _ vp source' _ hnone hread =>
      obtain rfl := List.self_eq_append_right.mp hlog
      exact .reads source source' vp hs hsource hnone hread rfl (List.not_mem_nil) rfl rfl rfl
        (.inl rfl)

theorem moves_of_ticks {env : Env M} {now : Int} {s s' : Session M} {l : List Event}
    (h : Ticks env now s s') (hlog : s'.log = s.log ++ l) : Moves s l s' := by
  cases h with
  | idle =>
      obtain ⟨pause, heq⟩ := notStreaming_eq now s
      rw [heq] at hlog ⊢
      obtain rfl := List.self_eq_append_right.mp hlog
      refine .rests rfl (List.not_mem_nil) rfl rfl rfl ?_
      dsimp only
      split
      · exact .inr rfl
      · exact .inl rfl
  | passes hs hsource hp => exact moves_passes hs hsource hp hlog
  | @waits source source' vp t hs hsource hh =>
      obtain rfl : l = [.timed vp (t.mediaTicks vp)] := by
        change t.log ++ _ = _ at hlog
        rw [hh.log] at hlog
        exact (List.append_cancel_left hlog).symm
      cases hh with
      | kept _ _ _ _ _ hheld => exact .rests rfl (by simp) rfl rfl rfl (.inr rfl)
      | read _ _ _ _ _ hnone hread =>
          exact .reads source source' vp hs hsource hnone hread rfl (by simp) rfl rfl rfl (.inr rfl)
  | @starts _ source' vp t hs hsource hh =>
      refine moves_deliver [.anchored vp now, .timed vp 0] hs hsource hh rfl (by simp) ?_ rfl rfl
        hlog
      rw [← hh.log]
      exact List.append_assoc ..
  | @sends _ source' vp t hs hsource hh hfirst =>
      refine moves_deliver [.timed vp (t.mediaTicks vp)] hs hsource hh rfl (by simp) ?_ rfl ?_ hlog
      · rw [← hh.log]
        rfl
      · exact (hh.facts hsource).2.2.2.trans hfirst

/-- The frames sent since the log had this length. -/
def sentSince (base : Nat) (s : Session M) : List VideoPacket := sentFrames (s.log.drop base)

omit [IMediaSource M] in
theorem sentSince_of_log {base : Nat} {s s' : Session M} {l : List Event}
    (hbase : base ≤ s.log.length) (hlog : s'.log = s.log ++ l) :
    sentSince base s' = sentSince base s ++ sentFrames l := by
  unfold sentSince
  rw [hlog, List.drop_append_of_le_length hbase, sentFrames_append]

end

/-! ## The clock of a source -/

variable {D B : Type}

/-- A timestamp that does not wrap. -/
theorem toNat_toUInt32_add {d : Int} {offset : UInt32} (hle : 0 ≤ (offset.toNat : Int) + d)
    (hlt : (offset.toNat : Int) + d < 2 ^ 32) :
    ((toUInt32 d + offset).toNat : Int) = offset.toNat + d := by
  have hoffset := offset.toNat_lt
  have hmod := Int.emod_nonneg d (by decide : (2 ^ 32 : Int) ≠ 0)
  have hmod' := Int.emod_lt_of_pos d (by decide : (0 : Int) < 2 ^ 32)
  have hof : (toUInt32 d).toNat = (d % 2 ^ 32).toNat := by
    unfold toUInt32
    rw [UInt32.toNat_ofNat']
    exact Nat.mod_eq_of_lt (by omega)
  rw [UInt32.toNat_add, hof]
  omega

theorem rtpTimestamp_toNat {m m' : MediaSource D B} {vp : VideoPacket} (h : m.Processed vp m')
    (hle : 0 ≤ (m'.rtpOffset.toNat : Int) + m'.tick vp)
    (hlt : (m'.rtpOffset.toNat : Int) + m'.tick vp < 2 ^ 32) :
    (vp.rtpTimestamp.toNat : Int) = m'.rtpOffset.toNat + m'.tick vp := by
  have hts : vp.rtpTimestamp = toUInt32 (m'.tick vp) + m'.rtpOffset := h.rtpTimestamp
  rw [hts]
  exact toNat_toUInt32_add hle hlt

/-- The frame is not before the first one since the seek, and its timestamp does not wrap. -/
def OnTime (m : MediaSource D B) (vp : VideoPacket) : Prop :=
  0 ≤ m.tick vp ∧ (m.rtpOffset.toNat : Int) + m.tick vp < 2 ^ 32

theorem rtpOffset_le_of_onTime {m m' : MediaSource D B} {vp : VideoPacket}
    (h : m.Processed vp m') (hon : OnTime m' vp) : m'.rtpOffset ≤ vp.rtpTimestamp := by
  obtain ⟨hle, hlt⟩ := hon
  have hnat := rtpTimestamp_toNat h (by omega) hlt
  rw [UInt32.le_iff_toNat_le]
  omega

/-! ## The last timestamp -/

/-- What a session keeps of the frames sent since the log had the length `base`: the timestamp
    of the last one, or 0. A frame that was prefetched is read before the first of them. -/
structure Tracks (base : Nat) (s : Session (MediaSource D B)) : Prop where
  len : base ≤ s.log.length
  prefetch : ∀ m, s.mediaSource = some m → sentSince base s ≠ [] ∨ s.pendingVp ≠ none →
    m.prefetchVp = none
  last : s.lastVideoRtp = 0 ∨
    ∃ vp ∈ (sentSince base s).getLast?, s.lastVideoRtp = vp.rtpTimestamp

/-- A step that leaves the last timestamp alone and sends nothing. -/
theorem Tracks.of_same {base : Nat} {s s' : Session (MediaSource D B)} {l : List Event}
    (h : Tracks base s) (hlog : s'.log = s.log ++ l) (hsent : sentFrames l = [])
    (hlast : s'.lastVideoRtp = s.lastVideoRtp ∨ s'.lastVideoRtp = 0)
    (hsource : ∀ m', s'.mediaSource = some m' → m'.prefetchVp = none ∨
      (s'.pendingVp = none ∨ s'.pendingVp = s.pendingVp) ∧
        ∃ m, s.mediaSource = some m ∧ m'.prefetchVp = m.prefetchVp) : Tracks base s' := by
  have hsame : sentSince base s' = sentSince base s := by
    rw [sentSince_of_log h.len hlog, hsent, List.append_nil]
  refine ⟨?_, fun m' hm' hread => ?_, ?_⟩
  · rw [hlog, List.length_append]
    exact Nat.le_add_right_of_le h.len
  · rcases hsource m' hm' with hnone | ⟨hheld, m, hm, hpre⟩
    · exact hnone
    · rw [hpre]
      refine h.prefetch m hm ?_
      rw [hsame] at hread
      refine hread.imp id fun hvp hnone => ?_
      rcases hheld with hheld | hheld
      · exact hvp hheld
      · exact hvp (hheld.trans hnone)
  · rw [hsame]
    rcases hlast with hlast | hlast
    · rw [hlast]
      exact h.last
    · exact .inl hlast

variable [FFmpeg D B]

theorem tracks_moves {base : Nat} {s s' : Session (MediaSource D B)} {l : List Event}
    (h : Tracks base s) (hmoves : Moves s l s') (hlog : s'.log = s.log ++ l) : Tracks base s' := by
  cases hmoves with
  | rests hsent _ hsource _ hlast hheld =>
      refine h.of_same hlog hsent (.inl hlast) fun m' hm' => .inr ⟨hheld, m', ?_, rfl⟩
      rw [← hsource]
      exact hm'
  | reads source source' vp _ _ _ hread hsent _ hsource' _ hlast =>
      refine h.of_same hlog hsent (.inl hlast) fun m' hm' => .inl ?_
      obtain rfl := Option.some.inj (hsource'.symm.trans hm')
      exact MediaSource.prefetchVp_readPacket hread
  | loops source source' wall pause _ _ _ hread hl heq =>
      refine h.of_same hlog (by rw [hl]; rfl) (.inr (by rw [heq]; rfl)) fun m' hm' => .inl ?_
      rw [heq] at hm'
      obtain rfl := Option.some.inj hm'
      have hnone : source'.prefetchVp = none := MediaSource.readPacket_none hread
      exact hnone
  | sends source source' vp n _ hsource hnext hsent _ hsource' _ hlast hheld =>
      have hnone : source'.prefetchVp = none := by
        rcases hnext with ⟨-, hvp, rfl⟩ | ⟨-, hread, -⟩
        · refine h.prefetch source' hsource (.inr ?_)
          rw [hvp]
          exact Option.some_ne_none vp
        · exact MediaSource.prefetchVp_readPacket hread
      refine ⟨?_, fun m' hm' _ => ?_, .inr ⟨vp, ?_, hlast⟩⟩
      · rw [hlog, List.length_append]
        exact Nat.le_add_right_of_le h.len
      · obtain rfl := Option.some.inj (hsource'.symm.trans hm')
        exact (readAudio_keeps n source').prefetchVp.trans hnone
      · rw [sentSince_of_log h.len hlog, hsent, List.getLast?_concat]
        rfl

/-! ## Requests -/

/-- A PLAY that starts afresh. -/
def PlaysAfresh (req : RTSPRequest) (s : Session (MediaSource D B)) : Prop :=
  req.method = ascii "PLAY" ∧ s.state ≠ .init ∧ s.state ≠ .paused ∧
    req.header (ascii "scale") = []

/-- A PLAY with a Scale header outside of PAUSED: it seeks to the last key frame. -/
def Scales (req : RTSPRequest) (s : Session (MediaSource D B)) : Prop :=
  req.method = ascii "PLAY" ∧ s.state ≠ .init ∧ s.state ≠ .paused ∧
    req.header (ascii "scale") ≠ []

instance (req : RTSPRequest) (s : Session (MediaSource D B)) : Decidable (PlaysAfresh req s) :=
  inferInstanceAs (Decidable (_ ∧ _))

instance (req : RTSPRequest) (s : Session (MediaSource D B)) : Decidable (Scales req s) :=
  inferInstanceAs (Decidable (_ ∧ _))

/-- The request neither opens a source nor starts afresh. -/
def GoesOn (req : RTSPRequest) (s : Session (MediaSource D B)) : Prop :=
  req.method ≠ ascii "DESCRIBE" ∧ ¬ PlaysAfresh req s

instance (req : RTSPRequest) (s : Session (MediaSource D B)) : Decidable (GoesOn req s) :=
  inferInstanceAs (Decidable (_ ∧ _))

/-- A request that goes on leaves the pacing alone, or it is a Scale PLAY. -/
inductive Answers (req : RTSPRequest) (s : Session (MediaSource D B)) (l : List Event)
    (s' : Session (MediaSource D B)) : Prop where
  | aside (hsent : sentFrames l = []) (hsource : s'.mediaSource = s.mediaSource)
      (hfirst : s'.firstFrame = s.firstFrame) (hlast : s'.lastVideoRtp = s.lastVideoRtp)
      (hheld : s'.pendingVp = s.pendingVp) (hscales : Scales req s → s.mediaSource = none)
  | scales (source : MediaSource D B) (hscales : Scales req s) (hsent : sentFrames l = [])
      (hsource : s.mediaSource = some source)
      (hsource' : s'.mediaSource = some (s.soughtSource s.lastKeyframeNpt true source))
      (hfirst : s'.firstFrame = true) (hlast : s'.lastVideoRtp = s.lastVideoRtp)
      (hheld : s'.pendingVp = none)

/-- The answer to a request that sought `t`, or left it alone. -/
theorem answers_of_aside {req : RTSPRequest} {s s' : Session (MediaSource D B)} {l : List Event}
    (h : Aside s s') (hlog : s'.log = s.log ++ l) (hscales : Scales req s → s.mediaSource = none) :
    Answers req s l s' := by
  obtain ⟨tail, htail, hex⟩ := h.log
  obtain rfl := List.append_cancel_left (hlog.symm.trans htail)
  exact .aside (nothingSent_of_exchange hex).1 (congrArg Stream.source h.stream)
    (congrArg Stream.firstFrame h.stream) (congrArg Stream.lastVideoRtp h.stream)
    (congrArg Stream.pendingVp h.stream) hscales

theorem answers_serves {req : RTSPRequest} {s s' : Session (MediaSource D B)} {l : List Event}
    (h : Serves req s s') (hgoes : GoesOn req s) (hlog : s'.log = s.log ++ l) :
    Answers req s l s' := by
  cases h with
  | aside ha _ hplay =>
      refine answers_of_aside ha hlog fun ⟨hm, hinit, hpaused, _⟩ => ?_
      rcases hplay hm with hstate | hstate
      · exact absurd hstate hinit
      · exact absurd hstate hpaused
  | plays start stop hplay hinit hpaused hscale => exact absurd ⟨hplay, hinit, hpaused, hscale⟩ hgoes.2
  | scales hplay hinit hpaused hscale ha =>
      rcases seekAndReset_eq s.lastKeyframeNpt true s with ⟨hnone, heq⟩ | ⟨source, hsource, heq⟩
      · rw [heq] at ha
        exact answers_of_aside ha hlog fun _ => hnone
      · rw [heq] at ha
        obtain ⟨tail, htail, hex⟩ := ha.log
        obtain rfl : l = .sought :: tail := by
          rw [htail, List.append_assoc] at hlog
          exact (List.append_cancel_left hlog).symm
        exact .scales source ⟨hplay, hinit, hpaused, hscale⟩ (nothingSent_of_exchange hex).1 hsource
          (congrArg Stream.source ha.stream) (congrArg Stream.firstFrame ha.stream)
          (congrArg Stream.lastVideoRtp ha.stream) (congrArg Stream.pendingVp ha.stream)

/-- The frames of a handled request, its taking included. -/
theorem answers_handleNext (env : Env (MediaSource D B)) {req : RTSPRequest}
    (rest : List RTSPRequest) {s : Session (MediaSource D B)} (hgoes : GoesOn req s) :
    ∃ l, (sessionOf (s.handleNext env req rest)).log = s.log ++ l ∧
      Answers req s l (sessionOf (s.handleNext env req rest)) := by
  obtain ⟨l, hl⟩ := handleNext_log env req rest s
  obtain ⟨hserves, hlog⟩ := handleNext_serves env rest hgoes.1 hl
  refine ⟨_, hl, ?_⟩
  cases answers_serves hserves hgoes hlog with
  | aside hsent hsource hfirst hlast hheld hscales =>
      exact .aside hsent hsource hfirst hlast hheld hscales
  | scales source hscales hsent hsource hsource' hfirst hlast hheld =>
      exact .scales source hscales hsent hsource hsource' hfirst hlast hheld

theorem prefetchVp_soughtSource (secs : Rat) (adjust : Bool) (source : MediaSource D B)
    (s : Session (MediaSource D B)) :
    (s.soughtSource secs adjust source).prefetchVp = source.prefetchVp := by
  have hseek : (seekToSeconds secs source).prefetchVp = source.prefetchVp :=
    source.seekToSeconds_prefetchVp secs
  unfold soughtSource
  dsimp only
  split
  · exact hseek
  · exact hseek

theorem tracks_answers {base : Nat} {req : RTSPRequest} {s s' : Session (MediaSource D B)}
    {l : List Event} (h : Tracks base s) (ha : Answers req s l s') (hlog : s'.log = s.log ++ l) :
    Tracks base s' := by
  cases ha with
  | aside hsent hsource _ hlast hheld =>
      refine h.of_same hlog hsent (.inl hlast) fun m' hm' => .inr ⟨.inr hheld, m', ?_, rfl⟩
      rw [← hsource]
      exact hm'
  | scales source _ hsent hsource hsource' _ hlast hheld =>
      refine h.of_same hlog hsent (.inl hlast) fun m' hm' => .inr ⟨.inl hheld, source, hsource, ?_⟩
      obtain rfl := Option.some.inj (hsource'.symm.trans hm')
      exact prefetchVp_soughtSource _ true source s

/-- The requests of a run after a PLAY. -/
def AfterPlay : Handled (MediaSource D B) → SessionAct (MediaSource D B) → Prop := OnRequest GoesOn

instance (t : Handled (MediaSource D B)) (a : SessionAct (MediaSource D B)) :
    Decidable (AfterPlay t a) := inferInstanceAs (Decidable (OnRequest GoesOn t a))

/-- What a step of such a run does. -/
theorem step_cases {s : Session (MediaSource D B)} {t : Handled (MediaSource D B)}
    {a : SessionAct (MediaSource D B)} (hgoes : AfterPlay (.ok s) a)
    (h : sessionStep (.ok s) a = some t) :
    ∃ l, (sessionOf t).log = s.log ++ l ∧
      ((∃ req, a = .command req ∧ l = [] ∧
          sessionOf t = { s with cmdQueue := s.cmdQueue ++ [req] }) ∨
        (∃ env req rest, a = .handle env ∧ s.cmdQueue = req :: rest ∧ Answers req s l (sessionOf t)) ∨
        ∃ env now, a = .pace env now ∧ Moves s l (sessionOf t)) := by
  cases a with
  | command req =>
      obtain rfl := Option.some.inj h
      exact ⟨[], (List.append_nil _).symm, .inl ⟨req, rfl, rfl, rfl⟩⟩
  | handle env =>
      obtain ⟨req, rest, hq, rfl⟩ := handle_cases h
      have hreq : GoesOn req s := hgoes req (by rw [hq]; rfl)
      obtain ⟨l, hl, ha⟩ := answers_handleNext env rest hreq
      exact ⟨l, hl, .inr (.inl ⟨env, req, rest, rfl, hq, ha⟩)⟩
  | pace env now =>
      obtain rfl := Option.some.inj h
      obtain ⟨l, hl⟩ := (ticks_pace env now s).log
      exact ⟨l, hl, .inr (.inr ⟨env, now, rfl, moves_of_ticks (ticks_pace env now s) hl⟩)⟩

theorem tracks_step {base : Nat} {s : Session (MediaSource D B)} {t : Handled (MediaSource D B)}
    {a : SessionAct (MediaSource D B)} (hI : Tracks base s) (hgoes : AfterPlay (.ok s) a)
    (h : sessionStep (.ok s) a = some t) : Tracks base (sessionOf t) := by
  obtain ⟨l, hlog, hcases⟩ := step_cases hgoes h
  rcases hcases with ⟨req, -, -, heq⟩ | ⟨env, req, rest, -, -, ha⟩ | ⟨env, now, -, hm⟩
  · rw [heq]
    exact ⟨hI.len, hI.prefetch, hI.last⟩
  · exact tracks_answers hI ha hlog
  · exact tracks_moves hI hm hlog

/-- A fresh PLAY forgets the last timestamp and the frame that is held. -/
theorem tracks_freshPlay {req : RTSPRequest} {s s' : Session (MediaSource D B)}
    (hfresh : PlaysAfresh req s) (h : Serves req s s') : Tracks s'.log.length s' := by
  obtain ⟨hm, hinit, hpaused, hscale⟩ := hfresh
  have hwait := awaitsKey_serves h (.inr ⟨hm, hinit, hpaused⟩)
  have hempty : sentSince s'.log.length s' = [] := by
    unfold sentSince
    rw [List.drop_length]
    rfl
  cases h with
  | aside _ _ hplay =>
      rcases hplay hm with hstate | hstate
      · exact absurd hstate hinit
      · exact absurd hstate hpaused
  | scales _ _ _ hscale' => exact absurd hscale hscale'
  | plays start stop _ _ _ _ ha =>
      rw [rtpInfo_eq] at ha
      have hlast : s'.lastVideoRtp = 0 := congrArg Stream.lastVideoRtp ha.stream
      refine ⟨le_refl _, fun m' hm' hread => ?_, .inl hlast⟩
      rcases hread with hread | hread
      · exact absurd hempty hread
      · rcases hwait with hnone | ⟨-, hvp⟩
        · rw [hnone] at hm'
          cases hm'
        · exact absurd hvp hread

/-- The step that handles a fresh PLAY. -/
theorem serves_fresh {s : Session (MediaSource D B)} {env : Env (MediaSource D B)}
    {fresh : RTSPRequest} {t : Handled (MediaSource D B)}
    (hfresh : s.cmdQueue.head? = some fresh) (hplays : PlaysAfresh fresh s)
    (h : sessionStep (.ok s) (.handle env) = some t) :
    ∃ s', PlaysAfresh fresh s' ∧ Serves fresh s' (sessionOf t) := by
  obtain ⟨req, rest, hq, rfl⟩ := handle_cases h
  obtain rfl : req = fresh := by
    rw [hq] at hfresh
    exact Option.some.inj hfresh
  obtain ⟨l, hl⟩ := handleNext_log env req rest s
  have hdescribe : req.method ≠ ascii "DESCRIBE" := by
    rw [hplays.1]
    decide
  exact ⟨{ s with cmdQueue := rest }.emit (.request req), hplays,
    (handleNext_serves env rest hdescribe hl).1⟩

/-! ## From a Scale PLAY to the next frame -/

/-- The offset after a Scale PLAY is not behind the timestamp the session keeps. -/
theorem lastVideoRtp_le_soughtSource (source : MediaSource D B) {s : Session (MediaSource D B)}
    (h : s.lastVideoRtp ≠ 0) :
    s.lastVideoRtp ≤ (s.soughtSource s.lastKeyframeNpt true source).rtpOffset := by
  unfold soughtSource
  dsimp only
  split
  · change s.lastVideoRtp ≤ rtpOffset (seekToSeconds s.lastKeyframeNpt source) +
      (s.lastVideoRtp - rtpOffset (seekToSeconds s.lastKeyframeNpt source))
    rw [UInt32.add_comm, UInt32.sub_add_cancel]
    exact UInt32.le_refl _
  · next hno =>
      have hle : ¬ rtpOffset (seekToSeconds s.lastKeyframeNpt source) < s.lastVideoRtp :=
        fun hlt => hno ⟨rfl, h, hlt⟩
      exact UInt32.not_lt.mp hle

/-- Where no timestamp is kept the offset is that of the key frame. -/
theorem soughtSource_of_zero (source : MediaSource D B) {s : Session (MediaSource D B)}
    (h : s.lastVideoRtp = 0) :
    s.soughtSource s.lastKeyframeNpt true source = seekToSeconds s.lastKeyframeNpt source := by
  unfold soughtSource
  exact if_neg fun hadjust => hadjust.2.1 h

/-- The session keeps the timestamp of the last frame, or the key frame that a Scale PLAY lands
    on is not behind that frame. -/
def LandsAhead (base : Nat) (s : Session (MediaSource D B)) : Prop :=
  s.lastVideoRtp = 0 → ∀ source ∈ s.mediaSource, ∀ last ∈ (sentSince base s).getLast?,
    last.rtpTimestamp ≤ rtpOffset (seekToSeconds s.lastKeyframeNpt source)

/-- The same at the end of the source, where the offset is `last_video_rtp_` and the duration of
    a frame. -/
def LoopsAhead (base : Nat) (s : Session (MediaSource D B)) : Prop :=
  s.lastVideoRtp.toNat + (s.lastFrameDur.getD 0).toNat < 2 ^ 32 ∧
    (s.lastVideoRtp = 0 → ∀ last ∈ (sentSince base s).getLast?,
      last.rtpTimestamp ≤ s.lastFrameDur.getD 0)

/-- What a tick reads: a key frame is on time. -/
def NextAhead (base : Nat) (s : Session (MediaSource D B)) :
    Option VideoPacket × MediaSource D B → Prop
  | (some vp, source) => vp.isKeyFrame = true → vp.nals ≠ [] → OnTime source vp
  | (none, _) => LoopsAhead base s

def ReadsAhead (base : Nat) (s : Session (MediaSource D B)) : Prop :=
  s.Streaming → ∀ source ∈ s.mediaSource, NextAhead base s (readPacket source)

/-- The condition on a step after a Scale PLAY, until the next frame is sent. -/
def StaysAhead (base start : Nat) :
    Handled (MediaSource D B) → SessionAct (MediaSource D B) → Prop
  | .ok s, .handle _ => sentSince start s = [] →
      ∀ req ∈ s.cmdQueue.head?, Scales req s → LandsAhead base s
  | .ok s, .pace _ _ => sentSince start s = [] → ReadsAhead base s
  | _, _ => True

instance (m : MediaSource D B) (vp : VideoPacket) : Decidable (OnTime m vp) :=
  inferInstanceAs (Decidable (_ ∧ _))

instance (base : Nat) (s : Session (MediaSource D B)) : Decidable (LandsAhead base s) :=
  inferInstanceAs (Decidable (s.lastVideoRtp = 0 → _))

instance (base : Nat) (s : Session (MediaSource D B)) : Decidable (LoopsAhead base s) :=
  inferInstanceAs (Decidable (_ ∧ (_ → _)))

instance decidableNextAhead (base : Nat) (s : Session (MediaSource D B)) :
    ∀ r, Decidable (NextAhead base s r)
  | (some vp, source) =>
      inferInstanceAs (Decidable (vp.isKeyFrame = true → vp.nals ≠ [] → OnTime source vp))
  | (none, _) => inferInstanceAs (Decidable (LoopsAhead base s))

instance (base : Nat) (s : Session (MediaSource D B)) : Decidable (ReadsAhead base s) :=
  inferInstanceAs (Decidable (s.Streaming → _))

instance decidableStaysAhead (base start : Nat) :
    ∀ (t : Handled (MediaSource D B)) (a : SessionAct (MediaSource D B)),
      Decidable (StaysAhead base start t a)
  | .ok s, .handle _ => inferInstanceAs (Decidable (sentSince start s = [] → _))
  | .ok s, .pace _ _ => inferInstanceAs (Decidable (sentSince start s = [] → ReadsAhead base s))
  | .ok _, .command _ => isTrue trivial
  | .error _, _ => isTrue trivial

/-- The next frame is the first one of a source whose offset is not below `floor`. -/
def Awaits (floor : UInt32) (s : Session (MediaSource D B)) : Prop :=
  ∀ source, s.mediaSource = some source →
    s.firstFrame = true ∧ source.prefetchVp = none ∧ floor ≤ source.rtpOffset

omit [FFmpeg D B] in
theorem Awaits.of_same {floor : UInt32} {s s' : Session (MediaSource D B)} (h : Awaits floor s)
    (hsource : s'.mediaSource = s.mediaSource) (hfirst : s'.firstFrame = s.firstFrame) :
    Awaits floor s' := by
  intro source hs
  rw [hsource] at hs
  rw [hfirst]
  exact h source hs

/-- A Scale PLAY. -/
theorem awaits_scales {base : Nat} {last : VideoPacket} {req : RTSPRequest}
    {s s' : Session (MediaSource D B)} {l : List Event} (h : Tracks base s)
    (hlast : (sentSince base s).getLast? = some last) (hscales : Scales req s)
    (hlands : LandsAhead base s) (ha : Answers req s l s') : Awaits last.rtpTimestamp s' := by
  cases ha with
  | aside _ hsource _ _ _ hnone =>
      intro source hs
      rw [hsource, hnone hscales] at hs
      cases hs
  | scales source _ _ hsource hsource' hfirst =>
      intro source' hs
      obtain rfl := Option.some.inj (hsource'.symm.trans hs)
      have hsent : sentSince base s ≠ [] := by
        intro hempty
        rw [hempty] at hlast
        cases hlast
      refine ⟨hfirst, ?_, ?_⟩
      · rw [prefetchVp_soughtSource]
        exact h.prefetch source hsource (.inl hsent)
      · by_cases hzero : s.lastVideoRtp = 0
        · rw [soughtSource_of_zero source hzero]
          exact hlands hzero source hsource last hlast
        · obtain ⟨vp, hvp, hts⟩ := h.last.resolve_left hzero
          obtain rfl := Option.some.inj (hlast.symm.trans hvp)
          rw [← hts]
          exact lastVideoRtp_le_soughtSource source hzero

/-- A tick that sends nothing goes on waiting; the first frame is not behind the last one. -/
theorem awaits_moves {base : Nat} {last : VideoPacket} {s s' : Session (MediaSource D B)}
    {l : List Event} (h : Tracks base s) (hlast : (sentSince base s).getLast? = some last)
    (hawaits : Awaits last.rtpTimestamp s) (hreads : ReadsAhead base s) (hm : Moves s l s') :
    (sentFrames l = [] ∧ Awaits last.rtpTimestamp s') ∨
      ∃ vp, sentFrames l = [vp] ∧ last.rtpTimestamp ≤ vp.rtpTimestamp := by
  cases hm with
  | rests hsent _ hsource hfirst => exact .inl ⟨hsent, hawaits.of_same hsource hfirst⟩
  | reads source source' vp _ hsource _ hread hsent _ hsource' hfirst =>
      obtain ⟨hff, hpre, hle⟩ := hawaits source hsource
      refine .inl ⟨hsent, fun m hm => ?_⟩
      obtain rfl := Option.some.inj (hsource'.symm.trans hm)
      have hkeeps := (MediaSource.readPacket_some hread hpre).1
      exact ⟨hfirst.trans hff, hkeeps.prefetchVp.trans hpre, by rw [hkeeps.rtpOffset]; exact hle⟩
  | loops source source' wall pause hs hsource _ hread hl heq =>
      obtain ⟨-, hpre, -⟩ := hawaits source hsource
      have hloops : LoopsAhead base s := by
        have := hreads hs source hsource
        rw [hread] at this
        exact this
      refine .inl ⟨by rw [hl]; rfl, fun m hm => ?_⟩
      rw [heq] at hm ⊢
      obtain rfl := Option.some.inj hm
      have hnone : source'.prefetchVp = none := MediaSource.readPacket_none hread
      refine ⟨rfl, hnone, ?_⟩
      change last.rtpTimestamp ≤ s.lastVideoRtp + s.lastFrameDur.getD 0
      by_cases hzero : s.lastVideoRtp = 0
      · rw [hzero, UInt32.zero_add]
        exact hloops.2 hzero last hlast
      · obtain ⟨vp, hvp, hts⟩ := h.last.resolve_left hzero
        obtain rfl := Option.some.inj (hlast.symm.trans hvp)
        rw [← hts, UInt32.le_iff_toNat_le, UInt32.toNat_add, Nat.mod_eq_of_lt hloops.1]
        exact Nat.le_add_right _ _
  | sends source source' vp n hs hsource hnext hsent =>
      obtain ⟨hff, hpre, hle⟩ := hawaits source hsource
      refine .inr ⟨vp, hsent, ?_⟩
      rcases hnext with ⟨hno, -⟩ | ⟨-, hread, hnals, hkey⟩
      · rw [hff] at hno
        cases hno
      · have hon : OnTime source' vp := by
          have := hreads hs source hsource
          rw [hread] at this
          exact this (hkey hff) hnals
        obtain ⟨hkeeps, hprocessed⟩ := MediaSource.readPacket_some hread hpre
        have := rtpOffset_le_of_onTime hprocessed hon
        rw [hkeeps.rtpOffset] at this
        exact UInt32.le_trans hle this

/-- The invariant from a Scale PLAY on, whose events begin at `start`; `last` is the last frame
    sent before. -/
structure Forward (base start : Nat) (last : VideoPacket) (s : Session (MediaSource D B)) :
    Prop where
  tracks : Tracks base s
  len : start ≤ s.log.length
  awaits : sentSince start s = [] →
    Awaits last.rtpTimestamp s ∧ (sentSince base s).getLast? = some last
  first : ∀ first ∈ (sentSince start s).head?, last.rtpTimestamp ≤ first.rtpTimestamp

omit [FFmpeg D B] in
/-- Once a frame was sent, what comes behind it does not matter. -/
theorem Forward.of_sent {base start : Nat} {last : VideoPacket} {s s' : Session (MediaSource D B)}
    {l : List Event} (h : Forward base start last s) (htracks : Tracks base s')
    (hlog : s'.log = s.log ++ l) (hsent : sentSince start s ≠ []) : Forward base start last s' := by
  have heq := sentSince_of_log h.len hlog
  refine ⟨htracks, ?_, fun hempty => ?_, fun first hfirst => ?_⟩
  · rw [hlog, List.length_append]
    exact Nat.le_add_right_of_le h.len
  · rw [heq] at hempty
    exact absurd (List.append_eq_nil_iff.mp hempty).1 hsent
  · rw [heq, List.head?_append_of_ne_nil _ hsent] at hfirst
    exact h.first first hfirst

omit [FFmpeg D B] in
/-- Until then the next frame is waited for. -/
theorem Forward.of_waiting {base start : Nat} {last : VideoPacket}
    {s s' : Session (MediaSource D B)} {l : List Event} (htracks : Tracks base s')
    (hbase : base ≤ s.log.length) (hstart : start ≤ s.log.length) (hlog : s'.log = s.log ++ l)
    (hsent : sentSince start s = []) (hlast : (sentSince base s).getLast? = some last)
    (h : (sentFrames l = [] ∧ Awaits last.rtpTimestamp s') ∨
      ∃ vp, sentFrames l = [vp] ∧ last.rtpTimestamp ≤ vp.rtpTimestamp) :
    Forward base start last s' := by
  have heq := sentSince_of_log hstart hlog
  have heq' := sentSince_of_log hbase hlog
  rw [hsent, List.nil_append] at heq
  have hle : start ≤ s'.log.length := by
    rw [hlog, List.length_append]
    exact Nat.le_add_right_of_le hstart
  rcases h with ⟨hnone, hawaits⟩ | ⟨vp, hone, hge⟩
  · refine ⟨htracks, hle, fun _ => ⟨hawaits, ?_⟩, fun first hfirst => ?_⟩
    · rw [heq', hnone, List.append_nil]
      exact hlast
    · rw [heq, hnone] at hfirst
      cases hfirst
  · refine ⟨htracks, hle, fun hempty => ?_, fun first hfirst => ?_⟩
    · rw [heq, hone] at hempty
      cases hempty
    · rw [heq, hone] at hfirst
      obtain rfl := Option.some.inj hfirst
      exact hge

theorem forward_step {base start : Nat} {last : VideoPacket} {s : Session (MediaSource D B)}
    {t : Handled (MediaSource D B)} {a : SessionAct (MediaSource D B)}
    (hI : Forward base start last s) (hgoes : AfterPlay (.ok s) a)
    (hahead : StaysAhead base start (.ok s) a) (h : sessionStep (.ok s) a = some t) :
    Forward base start last (sessionOf t) := by
  have htracks := tracks_step hI.tracks hgoes h
  obtain ⟨l, hlog, hcases⟩ := step_cases hgoes h
  by_cases hsent : sentSince start s = []
  · obtain ⟨hawaits, hlast⟩ := hI.awaits hsent
    refine .of_waiting htracks hI.tracks.len hI.len hlog hsent hlast ?_
    rcases hcases with ⟨req, rfl, rfl, heq⟩ | ⟨env, req, rest, rfl, hq, ha⟩ | ⟨env, now, rfl, hm⟩
    · rw [heq]
      exact .inl ⟨rfl, hawaits⟩
    · have hsame : sentFrames l = [] := by
        cases ha with
        | aside hsent => exact hsent
        | scales _ _ hsent => exact hsent
      refine .inl ⟨hsame, ?_⟩
      by_cases hscales : Scales req s
      · exact awaits_scales hI.tracks hlast hscales (hahead hsent req (by rw [hq]; rfl) hscales) ha
      · cases ha with
        | aside _ hsource hfirst => exact hawaits.of_same hsource hfirst
        | scales _ hyes => exact absurd hyes hscales
    · exact awaits_moves hI.tracks hlast hawaits (hahead hsent) hm
  · exact hI.of_sent htracks hlog hsent

/-- The first frame sent since `u` is not behind the last one sent before. -/
def ScaleForwards (base : Nat) (u : Session (MediaSource D B)) (t : Handled (MediaSource D B)) :
    Prop :=
  ∀ last ∈ (sentSince base u).getLast?,
    ∀ first ∈ (sentSince u.log.length (sessionOf t)).head?,
      last.rtpTimestamp ≤ first.rtpTimestamp

/-- **A change of Scale does not send RTP time back**, unless it comes after the end of the
    source and before the next frame. For every source and every run after a fresh PLAY without
    a DESCRIBE or another fresh PLAY: where the session keeps the timestamp of the last frame
    when a Scale PLAY is handled, or the key frame it lands on is not behind that frame, the first
    frame sent after the Scale PLAY is not behind the last one sent before it. -/
theorem scale_forwards (s u : Session (MediaSource D B)) (env env' : Env (MediaSource D B))
    (fresh scale : RTSPRequest) (t₀ t : Handled (MediaSource D B))
    (mid post : List (SessionAct (MediaSource D B))) (hfresh : s.cmdQueue.head? = some fresh)
    (hplays : PlaysAfresh fresh s) (hstart : sessionStep (.ok s) (.handle env) = some t₀)
    (hmid : Lts.run sessionStep t₀ mid = some (.ok u))
    (hgoes : Lts.Along sessionStep AfterPlay t₀ mid)
    (hscale : u.cmdQueue.head? = some scale) (hscales : Scales scale u)
    (hpost : Lts.run sessionStep (.ok u) (.handle env' :: post) = some t)
    (hgoes' : Lts.Along sessionStep AfterPlay (.ok u) (.handle env' :: post))
    (hahead : Lts.Along sessionStep (StaysAhead (sessionOf t₀).log.length u.log.length) (.ok u)
      (.handle env' :: post)) :
    ScaleForwards (sessionOf t₀).log.length u t := by
  intro last hlast
  -- up to the Scale PLAY
  have htracks₀ : Tracks (sessionOf t₀).log.length (sessionOf t₀) := by
    obtain ⟨s', hplays', hserves⟩ := serves_fresh hfresh hplays hstart
    exact tracks_freshPlay hplays' hserves
  have htracks : Tracks (sessionOf t₀).log.length u :=
    Lts.run_invariant (I := fun t => Tracks (sessionOf t₀).log.length (sessionOf t))
      (fun t a t' hI hC h => by
        cases t with
        | error s => cases h
        | ok s => exact tracks_step hI hC h) htracks₀ hgoes hmid
  -- the Scale PLAY
  obtain ⟨t₁, hstep, hrest⟩ := Lts.run_cons hpost
  have hsent : sentSince u.log.length u = [] := by
    unfold sentSince
    rw [List.drop_length]
    rfl
  rw [Lts.Along, hstep] at hgoes' hahead
  have hforward : Forward (sessionOf t₀).log.length u.log.length last (sessionOf t₁) := by
    have htracks₁ := tracks_step htracks hgoes'.1 hstep
    obtain ⟨req, rest, hq, rfl⟩ := handle_cases hstep
    obtain ⟨l, hlog, ha⟩ := answers_handleNext env' rest (hgoes'.1 req (by rw [hq]; rfl))
    have heq : req = scale := by
      rw [hq] at hscale
      exact Option.some.inj hscale
    rw [← heq] at hscales
    refine .of_waiting htracks₁ htracks.len (le_refl _) hlog hsent hlast (.inl ⟨?_, ?_⟩)
    · cases ha with
      | aside hsame => exact hsame
      | scales _ _ hsame => exact hsame
    · exact awaits_scales htracks hlast hscales (hahead.1 hsent req (by rw [hq]; rfl) hscales) ha
  -- and from there on
  exact (Lts.run_invariant (I := fun t => Forward (sessionOf t₀).log.length u.log.length last
      (sessionOf t)) (C := fun t a => AfterPlay t a ∧
        StaysAhead (sessionOf t₀).log.length u.log.length t a)
    (fun t a t' hI hC h => by
      cases t with
      | error s => cases h
      | ok s => exact forward_step hI hC.1 hC.2 h) hforward
    (Lts.along_and hgoes'.2 hahead.2) hrest).first

instance (base : Nat) (u : Session (MediaSource D B)) (t : Handled (MediaSource D B)) :
    Decidable (ScaleForwards base u t) :=
  inferInstanceAs (Decidable (∀ last ∈ (sentSince base u).getLast?, _))

/-- A PLAY with a Scale header. -/
def scaleRequest : RTSPRequest :=
  { playRequest with
    headers := ((∅ : HeaderMap).insert (ascii "cseq") (ascii "5")).insert (ascii "scale") (ascii "2") }

/-- Ticks at these times. -/
def ticksAt (ps : List AVPacket) (nows : List Int) :
    List (SessionAct (MediaSource PacketList Unit)) :=
  nows.map fun now => .pace (machine ps) now

/-- A fresh PLAY of the two frames, ticks at `nows`, a Scale PLAY and a tick: the session before
    the PLAY, after it, before the Scale PLAY is handled, and at the end. -/
def scaleRun (nows : List Int) : Option (Session (MediaSource PacketList Unit) ×
    Handled (MediaSource PacketList Unit) × Session (MediaSource PacketList Unit) ×
    Handled (MediaSource PacketList Unit)) :=
  match Lts.run sessionStep (.ok client) (untilPlay inOrder) with
  | some (.ok s) =>
      match sessionStep (.ok s) (.handle (machine inOrder)) with
      | none => none
      | some t₀ =>
          match Lts.run sessionStep t₀ (ticksAt inOrder nows ++ [.command scaleRequest]) with
          | some (.ok u) =>
              (Lts.run sessionStep (.ok u)
                (.handle (machine inOrder) :: ticksAt inOrder [2000000000])).map (s, t₀, u, ·)
          | _ => none
  | _ => none

theorem scaleRun_spec {nows : List Int} {s u : Session (MediaSource PacketList Unit)}
    {t₀ t : Handled (MediaSource PacketList Unit)} (h : scaleRun nows = some (s, t₀, u, t)) :
    Lts.run sessionStep (.ok client) (untilPlay inOrder) = some (.ok s) ∧
      sessionStep (.ok s) (.handle (machine inOrder)) = some t₀ ∧
      Lts.run sessionStep t₀ (ticksAt inOrder nows ++ [.command scaleRequest]) = some (.ok u) ∧
      Lts.run sessionStep (.ok u) (.handle (machine inOrder) :: ticksAt inOrder [2000000000]) =
        some t := by
  unfold scaleRun at h
  split at h
  · next s' hs =>
      split at h
      · cases h
      · next t₀' ht₀ =>
          split at h
          · next u' hu =>
              obtain ⟨t', ht, heq⟩ := Option.map_eq_some_iff.mp h
              simp only [Prod.mk.injEq] at heq
              obtain ⟨rfl, rfl, rfl, rfl⟩ := heq
              exact ⟨hs, ht₀, hu, ht⟩
          · cases h
  · cases h

/-- The requests of `scaleRun` are those of a run after a PLAY. -/
def ScaleRequests (nows : List Int) (s : Session (MediaSource PacketList Unit))
    (t₀ : Handled (MediaSource PacketList Unit)) (u : Session (MediaSource PacketList Unit)) :
    Prop :=
  s.cmdQueue.head? = some playRequest ∧ PlaysAfresh playRequest s ∧
    Lts.Along sessionStep AfterPlay t₀ (ticksAt inOrder nows ++ [.command scaleRequest]) ∧
    u.cmdQueue.head? = some scaleRequest ∧ Scales scaleRequest u ∧
    Lts.Along sessionStep AfterPlay (.ok u)
      (.handle (machine inOrder) :: ticksAt inOrder [2000000000])

instance (nows : List Int) (s : Session (MediaSource PacketList Unit))
    (t₀ : Handled (MediaSource PacketList Unit)) (u : Session (MediaSource PacketList Unit)) :
    Decidable (ScaleRequests nows s t₀ u) := inferInstanceAs (Decidable (_ ∧ _))

/-- The third tick meets the end of the file. The Scale PLAY behind it lands on the key frame at
    0, and the next frame is sent with the timestamp 0 after 3600. -/
theorem scale_after_end_not_forwards : ∃ s t₀ u t,
    Lts.run sessionStep (.ok client) (untilPlay inOrder) = some (.ok s) ∧
      sessionStep (.ok s) (.handle (machine inOrder)) = some t₀ ∧
      Lts.run sessionStep t₀ (ticksAt inOrder [1, 1000000000, 1000000000] ++
        [.command scaleRequest]) = some (.ok u) ∧
      Lts.run sessionStep (.ok u) (.handle (machine inOrder) :: ticksAt inOrder [2000000000]) =
        some t ∧
      ScaleRequests [1, 1000000000, 1000000000] s t₀ u ∧
      (sentSince (sessionOf t₀).log.length u).map (fun vp => vp.rtpTimestamp) = [0, 3600] ∧
      (sentSince u.log.length (sessionOf t)).map (fun vp => vp.rtpTimestamp) = [0] ∧
      ¬ ScaleForwards (sessionOf t₀).log.length u t := by
  have hends : (scaleRun [1, 1000000000, 1000000000]).map (fun r =>
      decide (ScaleRequests [1, 1000000000, 1000000000] r.1 r.2.1 r.2.2.1 ∧
        (sentSince (sessionOf r.2.1).log.length r.2.2.1).map (fun vp => vp.rtpTimestamp) =
          [0, 3600] ∧
        (sentSince r.2.2.1.log.length (sessionOf r.2.2.2)).map (fun vp => vp.rtpTimestamp) = [0] ∧
        ¬ ScaleForwards (sessionOf r.2.1).log.length r.2.2.1 r.2.2.2)) = some true := by
    decide +kernel
  obtain ⟨⟨s, t₀, u, t⟩, hrun, hall⟩ := Option.map_eq_some_iff.mp hends
  obtain ⟨hs, ht₀, hu, ht⟩ := scaleRun_spec hrun
  exact ⟨s, t₀, u, t, hs, ht₀, hu, ht, of_decide_eq_true hall⟩

/-- Before the end of the file the clock is moved to 3600. -/
theorem scale_forwards_inOrder : ∃ s t₀ u t,
    Lts.run sessionStep (.ok client) (untilPlay inOrder) = some (.ok s) ∧
      sessionStep (.ok s) (.handle (machine inOrder)) = some t₀ ∧
      Lts.run sessionStep t₀ (ticksAt inOrder [1, 1000000000] ++ [.command scaleRequest]) =
        some (.ok u) ∧
      Lts.run sessionStep (.ok u) (.handle (machine inOrder) :: ticksAt inOrder [2000000000]) =
        some t ∧
      (sentSince (sessionOf t₀).log.length u).map (fun vp => vp.rtpTimestamp) = [0, 3600] ∧
      (sentSince u.log.length (sessionOf t)).map (fun vp => vp.rtpTimestamp) = [3600] ∧
      ScaleForwards (sessionOf t₀).log.length u t := by
  have hends : (scaleRun [1, 1000000000]).map (fun r =>
      decide (ScaleRequests [1, 1000000000] r.1 r.2.1 r.2.2.1 ∧
        Lts.Along sessionStep (StaysAhead (sessionOf r.2.1).log.length r.2.2.1.log.length)
          (.ok r.2.2.1) (.handle (machine inOrder) :: ticksAt inOrder [2000000000]) ∧
        (sentSince (sessionOf r.2.1).log.length r.2.2.1).map (fun vp => vp.rtpTimestamp) =
          [0, 3600] ∧
        (sentSince r.2.2.1.log.length (sessionOf r.2.2.2)).map (fun vp => vp.rtpTimestamp) =
          [3600])) = some true := by
    decide +kernel
  obtain ⟨⟨s, t₀, u, t⟩, hrun, hall⟩ := Option.map_eq_some_iff.mp hends
  obtain ⟨hs, ht₀, hu, ht⟩ := scaleRun_spec hrun
  obtain ⟨⟨hfresh, hplays, hgoes, hscale, hscales, hgoes'⟩, hahead, hbefore, hafter⟩ :=
    of_decide_eq_true hall
  exact ⟨s, t₀, u, t, hs, ht₀, hu, ht, hbefore, hafter,
    scale_forwards s u (machine inOrder) (machine inOrder) playRequest scaleRequest t₀ t
      (ticksAt inOrder [1, 1000000000] ++ [.command scaleRequest]) (ticksAt inOrder [2000000000])
      hfresh hplays ht₀ hu hgoes hscale hscales ht hgoes' hahead⟩

end RtspServer
