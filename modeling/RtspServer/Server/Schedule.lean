/-
  The schedule of the video frames. After a seek the first frame that is held anchors the clock
  of the session; each later frame is timed by the distance of its RTP timestamp from the one of
  the anchor, a difference in `uint32_t`.

  A pass is what follows a seek up to the next seek or DESCRIBE. `Pass` is the invariant of a
  pass: the frames that are timed and the anchor are stamped by one clock of the source, but for
  a frame that was prefetched before the seek, which neither `seek` nor `seekToSeconds` drops.
  Where the clock of the pass agrees with the stamp of that frame, `schedule_iff`: the offsets
  follow the times of the frames exactly as long as no frame is before the anchor. The leading
  B-frames of an open GOP are, and then the difference wraps to almost 2^32 ticks.
-/
import RtspServer.Server.SendPath

namespace RtspServer

open ByteString Session IMediaSource

/-! ## Differences of the RTP clock -/

/-- The difference of two clock values, whatever they are offset by. -/
theorem clock_sub (x y : Int) (offset : UInt32) :
    (((toUInt32 x + offset) - (toUInt32 y + offset)).toNat : Int) = (x - y) % 2 ^ 32 := by
  have hx := toUInt32_toNat x
  have hy := toUInt32_toNat y
  have hcancel : (toUInt32 x + offset) - (toUInt32 y + offset) = toUInt32 x - toUInt32 y := by
    simp
  rw [hcancel, UInt32.toNat_sub]
  omega

/-- Below half the range of the clock the difference is the distance exactly when it is not
    negative. -/
theorem clock_sub_eq_iff (d : Int) (h : |d| < 2 ^ 31) : d % 2 ^ 32 = max 0 d ↔ 0 ≤ d := by
  rw [abs_lt] at h
  omega

variable {D B : Type}

namespace MediaSource

/-- The time of a frame from the first one, in 90 kHz ticks. -/
def tick (m : MediaSource D B) (vp : VideoPacket) : Int :=
  avRescaleQ (vp.pktData.time - m.firstPts) m.timeBase 90000

/-- Two frames stamped by one clock are as far apart as their ticks. -/
theorem Stamped.sub {m : MediaSource D B} {f a : VideoPacket} (hf : m.Stamped f) (ha : m.Stamped a)
    (htf : f.pktData.time ≠ avNoPtsValue) (hta : a.pktData.time ≠ avNoPtsValue) :
    ((f.rtpTimestamp - a.rtpTimestamp).toNat : Int) = (m.tick f - m.tick a) % 2 ^ 32 := by
  rw [(hf htf).2, (ha hta).2]
  exact clock_sub _ _ _

end MediaSource

/-! ## Passes -/

/-- The event is of the schedule. -/
def Event.isMark : Event → Bool
  | .sought | .anchored _ _ | .timed _ _ => true
  | _ => false

/-- The event ends a pass: a seek or a DESCRIBE. -/
def Event.endsPass : Event → Bool
  | .sought => true
  | .request req => req.method = ascii "DESCRIBE"
  | _ => false

def InPass (log : List Event) : Prop := ∀ e ∈ log, e.endsPass = false

theorem InPass.append {l l' : List Event} : InPass (l ++ l') ↔ InPass l ∧ InPass l' :=
  List.forall_mem_append

/-- The invariant of a pass with these events: the source has a fresh clock, and the held frame,
    the anchor and the timed frames are stamped by it, but for the old one. -/
structure Pass (old : Option VideoPacket) (m : MediaSource D B) (pass : List Event)
    (s : Session (MediaSource D B)) : Prop where
  source : s.mediaSource = some m
  fresh : m.Fresh old
  held : s.firstFrame = false → ∀ vp, s.pendingVp = some vp → m.StampedBut old vp
  unmarked : s.firstFrame = true → ∀ e ∈ pass, e.isMark = false
  anchor : ∀ a now, .anchored a now ∈ pass → s.loopVideoOffset = a.rtpTimestamp ∧ m.StampedBut old a
  timed : ∀ a now, .anchored a now ∈ pass → ∀ f k, .timed f k ∈ pass →
    m.StampedBut old f ∧ k = (f.rtpTimestamp - a.rtpTimestamp).toNat

/-- A step that marks nothing. -/
theorem Pass.unmarkedStep {old : Option VideoPacket} {m m' : MediaSource D B} {pass l : List Event}
    {s s' : Session (MediaSource D B)} (h : Pass old m pass s) (hsource : s'.mediaSource = some m')
    (hfresh : m'.Fresh old) (hstamped : ∀ vp, m.StampedBut old vp → m'.StampedBut old vp)
    (hfirst : s'.firstFrame = s.firstFrame) (hoffset : s'.loopVideoOffset = s.loopVideoOffset)
    (hheld : s'.firstFrame = false → ∀ vp, s'.pendingVp = some vp → m'.StampedBut old vp)
    (hl : ∀ e ∈ l, e.isMark = false) : Pass old m' (pass ++ l) s' := by
  have hmark : ∀ e : Event, e.isMark = true → e ∈ pass ++ l → e ∈ pass := by
    intro e he hmem
    rcases List.mem_append.mp hmem with hmem | hmem
    · exact hmem
    · rw [hl e hmem] at he
      cases he
  refine ⟨hsource, hfresh, hheld, ?_, ?_, ?_⟩
  · intro hff e he
    rcases List.mem_append.mp he with he | he
    · exact h.unmarked (hfirst ▸ hff) e he
    · exact hl e he
  · intro a now ha
    obtain ⟨hoff, hstamp⟩ := h.anchor a now (hmark _ rfl ha)
    exact ⟨hoffset.trans hoff, hstamped a hstamp⟩
  · intro a now ha f k hf
    obtain ⟨hstamp, hk⟩ := h.timed a now (hmark _ rfl ha) f k (hmark _ rfl hf)
    exact ⟨hstamped f hstamp, hk⟩

/-- The events of steps 6 and 7. -/
def timedEvents (now : Int) (vp : VideoPacket) (s : Session (MediaSource D B)) : List Event :=
  if s.firstFrame then [.anchored vp now, .timed vp (vp.rtpTimestamp - vp.rtpTimestamp).toNat]
  else [.timed vp (vp.rtpTimestamp - s.loopVideoOffset).toNat]

theorem timedStep_log [FFmpeg D B] (now : Int) (source : MediaSource D B) (vp : VideoPacket)
    (s : Session (MediaSource D B)) :
    ((s.anchor now source vp).emit (.timed vp ((s.anchor now source vp).mediaTicks vp))).log =
      s.log ++ timedEvents now vp s := by
  unfold timedEvents
  rcases anchor_cases now source vp s with ⟨hff, gate, audio, heq⟩ | ⟨hff, gate, heq⟩
  · rw [heq, if_pos hff]
    exact List.append_assoc _ _ _
  · rw [heq, if_neg (by rw [hff]; exact Bool.false_ne_true)]
    rfl

/-- A frame is timed, and becomes the anchor if there is none. -/
theorem Pass.timedStep [FFmpeg D B] {old : Option VideoPacket} {m : MediaSource D B}
    {pass : List Event} {s : Session (MediaSource D B)} {vp : VideoPacket} (now : Int)
    (h : Pass old m pass s)
    (hheld : ∀ vp, s.pendingVp = some vp → m.StampedBut old vp) (hvp : m.StampedBut old vp) :
    Pass old m (pass ++ timedEvents now vp s)
      ((s.anchor now m vp).emit (.timed vp ((s.anchor now m vp).mediaTicks vp))) := by
  unfold timedEvents
  rcases anchor_cases now m vp s with ⟨hff, gate, audio, heq⟩ | ⟨hff, gate, heq⟩
  · -- nothing is marked yet, so the frame is the only anchor and the only timed frame
    have hnone := h.unmarked hff
    rw [heq, if_pos hff]
    refine ⟨h.source, h.fresh, fun _ => hheld, fun hff' => ?_, ?_, ?_⟩
    · cases hff'
    · intro a now' ha
      rcases List.mem_append.mp ha with ha | ha
      · exact absurd (hnone _ ha) (by simp [Event.isMark])
      · simp only [List.mem_cons, Event.anchored.injEq, List.not_mem_nil, or_false,
          reduceCtorEq] at ha
        rw [ha.1]
        exact ⟨rfl, hvp⟩
    · intro a now' ha f k hf
      rcases List.mem_append.mp ha with ha | ha
      · exact absurd (hnone _ ha) (by simp [Event.isMark])
      rcases List.mem_append.mp hf with hf | hf
      · exact absurd (hnone _ hf) (by simp [Event.isMark])
      simp only [List.mem_cons, Event.anchored.injEq, Event.timed.injEq, List.not_mem_nil,
        or_false, false_or, reduceCtorEq] at ha hf
      rw [ha.1, hf.1, hf.2]
      exact ⟨hvp, rfl⟩
  · rw [heq, if_neg (by rw [hff]; exact Bool.false_ne_true)]
    refine ⟨h.source, h.fresh, fun _ => hheld, fun hff' => ?_, ?_, ?_⟩
    · change s.firstFrame = true at hff'
      rw [hff] at hff'
      cases hff'
    · intro a now' ha
      exact h.anchor a now' (by simpa using ha)
    · intro a now' ha f k hf
      have ha : .anchored a now' ∈ pass := by simpa using ha
      rcases List.mem_append.mp hf with hf | hf
      · exact h.timed a now' ha f k hf
      · simp only [List.mem_singleton, Event.timed.injEq] at hf
        rw [hf.1, hf.2, (h.anchor a now' ha).1]
        exact ⟨hvp, rfl⟩

/-! ## The steps of a session -/

/-- From `s` to `s'` these events happen, and a pass goes on if none of them starts another. -/
def Carries (s : Session (MediaSource D B)) (l : List Event) (s' : Session (MediaSource D B)) :
    Prop :=
  s'.log = s.log ++ l ∧
    (InPass l → ∀ old m pass, Pass old m pass s → ∃ m', Pass old m' (pass ++ l) s')

theorem Carries.trans {s t u : Session (MediaSource D B)} {l l' : List Event} (h : Carries s l t)
    (h' : Carries t l' u) : Carries s (l ++ l') u := by
  obtain ⟨hlog, hpass⟩ := h
  obtain ⟨hlog', hpass'⟩ := h'
  refine ⟨by rw [hlog', hlog, List.append_assoc], fun hin old m pass hp => ?_⟩
  obtain ⟨hin, hin'⟩ := InPass.append.mp hin
  obtain ⟨m₁, hp⟩ := hpass hin old m pass hp
  rw [← List.append_assoc]
  exact hpass' hin' old m₁ _ hp

/-- A step without a seek. -/
def Continues (s s' : Session (MediaSource D B)) : Prop := ∃ l, .sought ∉ l ∧ Carries s l s'

theorem Continues.trans {s t u : Session (MediaSource D B)} (h : Continues s t)
    (h' : Continues t u) : Continues s u := by
  obtain ⟨l, hl, hc⟩ := h
  obtain ⟨l', hl', hc'⟩ := h'
  refine ⟨l ++ l', ?_, hc.trans hc'⟩
  rw [List.mem_append, not_or]
  exact ⟨hl, hl'⟩

theorem not_sought_of_unmarked {l : List Event} (h : ∀ e ∈ l, e.isMark = false) : .sought ∉ l :=
  fun hmem => Bool.noConfusion (h _ hmem)

/-- A step that does not touch what the schedule depends on. -/
theorem Continues.of_same {s s' : Session (MediaSource D B)} (l : List Event)
    (hlog : s'.log = s.log ++ l) (hl : ∀ e ∈ l, e.isMark = false)
    (hsource : s'.mediaSource = s.mediaSource) (hfirst : s'.firstFrame = s.firstFrame)
    (hoffset : s'.loopVideoOffset = s.loopVideoOffset)
    (hpending : s'.pendingVp = none ∨ s'.pendingVp = s.pendingVp) : Continues s s' := by
  refine ⟨l, not_sought_of_unmarked hl, hlog, fun _ old m pass hp => ⟨m, ?_⟩⟩
  refine hp.unmarkedStep (hsource.trans hp.source) hp.fresh (fun _ hs => hs) hfirst hoffset ?_ hl
  intro hff vp hvp
  rcases hpending with hnone | hsame
  · rw [hnone] at hvp
    cases hvp
  · exact hp.held (hfirst ▸ hff) vp (hsame ▸ hvp)

theorem isMark_of_isExchange {e : Event} (h : e.isExchange = true) : e.isMark = false := by
  unfold Event.isExchange at h
  split at h
  · rfl
  · rfl
  · cases h

theorem isMark_of_packetTrack {e : Event} {track : Track} (h : e.packetTrack = some track) :
    e.isMark = false := by
  unfold Event.isMark
  split
  · cases h
  · cases h
  · cases h
  · rfl

theorem continues_aside {s s' : Session (MediaSource D B)} (h : Aside s s') : Continues s s' := by
  obtain ⟨hstream, tail, hlog, htail⟩ := h
  exact .of_same tail hlog (fun e he => isMark_of_isExchange (htail e he))
    (congrArg Stream.source hstream) (congrArg Stream.firstFrame hstream)
    (congrArg Stream.loopVideoOffset hstream) (.inr (congrArg Stream.pendingVp hstream))

variable [FFmpeg D B]

/-- Steps 3 to 5: the pass goes on with a frame of its clock at most, or the source starts
    again. -/
theorem pass_fetches {source : MediaSource D B} {s t : Session (MediaSource D B)}
    (h : Fetches source s t) :
    (t.log = s.log ∧ ∀ old pass, Pass old source pass s →
      ∃ m, Pass old m pass t ∧ ∀ vp, t.pendingVp = some vp → m.StampedBut old vp) ∨
    (t.log = s.log ++ [.sought] ∧ t.pendingVp = none ∧ t.firstFrame = true ∧
      ∃ m, t.mediaSource = some m ∧ m.prefetchVp = none) := by
  cases h with
  | gated ht =>
      obtain ⟨w, p, g, rfl⟩ := ht
      refine .inl ⟨rfl, fun old pass hp => ⟨source, ?_, fun vp hvp => ?_⟩⟩
      · exact ⟨hp.source, hp.fresh, fun _ vp hvp => (nomatch hvp), hp.unmarked, hp.anchor, hp.timed⟩
      · cases hvp
  | held ht hvp hfirst =>
      obtain ⟨w, p, g, rfl⟩ := ht
      refine .inl ⟨rfl, fun old pass hp => ⟨source, ?_, hp.held hfirst⟩⟩
      exact ⟨hp.source, hp.fresh, hp.held, hp.unmarked, hp.anchor, hp.timed⟩
  | ended ht hread =>
      obtain ⟨w, p, g, rfl⟩ := ht
      refine .inr ⟨rfl, rfl, rfl, _, rfl, ?_⟩
      exact (MediaSource.seek_prefetchVp _ _).trans (MediaSource.readPacket_none hread)
  | @read t vp source' state pending ht hread hstate hpending =>
      have hread : source.readPacket = (some vp, source') := hread
      obtain ⟨w, p, g, rfl⟩ := ht
      refine .inl ⟨rfl, fun old pass hp => ?_⟩
      obtain ⟨hfresh, hnew, hold⟩ := MediaSource.readPacket_spec hp.fresh
      rw [hread] at hfresh hnew hold
      have hheld : ∀ vp', pending = some vp' → source'.StampedBut old vp' := by
        intro vp' hvp'
        rcases hpending with hnone | hsome
        · rw [hnone] at hvp'
          cases hvp'
        · rw [hsome] at hvp'
          exact hnew vp' hvp'
      refine ⟨source', ?_, hheld⟩
      rw [← List.append_nil pass]
      exact hp.unmarkedStep rfl hfresh hold rfl rfl (fun _ => hheld) fun e he => nomatch he

theorem readAudio_keeps (n : Nat) (m : MediaSource D B) :
    m.Keeps ((fun m => (readAudioPacket m).2)^[n] m) := by
  induction n with
  | zero => exact .refl m
  | succ n ih =>
      rw [Function.iterate_succ_apply']
      exact ih.trans (MediaSource.readAudioPacket_keeps _)

theorem continues_paceAudio (env : Env (MediaSource D B)) (now : Int) (source : MediaSource D B)
    (s : Session (MediaSource D B)) : Continues s (s.paceAudio env now source) := by
  obtain ⟨seq, loads, close, tail, held, n, heq, htail⟩ := paceAudio_spec env now source s
  rw [heq]
  have hunmarked : ∀ e ∈ tail, e.isMark = false := fun e he => isMark_of_packetTrack (htail e he)
  refine ⟨tail, not_sought_of_unmarked hunmarked, rfl, fun _ old m pass hp => ?_⟩
  have hk := readAudio_keeps n m
  exact ⟨_, hp.unmarkedStep (by rw [hp.source]; rfl) (hp.fresh.keeps hk) (fun _ hs => hs.keeps hk)
    rfl rfl (fun hff vp hvp => (hp.held hff vp hvp).keeps hk) hunmarked⟩

theorem continues_sendFrame (env : Env (MediaSource D B)) (source : MediaSource D B)
    (vp : VideoPacket) (s : Session (MediaSource D B)) :
    Continues s (s.sendFrame env source vp) := by
  obtain ⟨loads, close, tail, heq, htail⟩ := sendFrame_spec env source vp s
  rw [heq]
  refine .of_same (.sending vp :: tail) rfl (fun e he => ?_) rfl rfl rfl (.inr rfl)
  rcases List.mem_cons.mp he with rfl | he
  · rfl
  · exact isMark_of_packetTrack (packetTrack_of_map htail e he)

theorem continues_trackFrame (source : MediaSource D B) (vp : VideoPacket)
    (s : Session (MediaSource D B)) : Continues s (s.trackFrame source vp) :=
  .of_same [] (List.append_nil _).symm (fun _ he => nomatch he) rfl rfl rfl (.inl rfl)

/-- Steps 6 and 7 on a frame that the clock of the source has stamped. -/
theorem continues_timed {source source' : MediaSource D B} {s t : Session (MediaSource D B)}
    (now : Int) {vp : VideoPacket} (hsource : s.mediaSource = some source)
    (hlog : t.log = s.log) (hpass : ∀ old pass, Pass old source pass s →
      ∃ m, Pass old m pass t ∧ ∀ vp, t.pendingVp = some vp → m.StampedBut old vp)
    (hsource' : t.mediaSource = some source') (hvp : t.pendingVp = some vp) :
    Continues s ((t.anchor now source' vp).emit
      (.timed vp ((t.anchor now source' vp).mediaTicks vp))) := by
  refine ⟨timedEvents now vp t, ?_, by rw [timedStep_log, hlog], fun _ old m pass hp => ?_⟩
  · unfold timedEvents
    split <;> simp
  · obtain rfl := Option.some.inj (hsource.symm.trans hp.source)
    obtain ⟨m', hp', hheld⟩ := hpass old pass hp
    obtain rfl := Option.some.inj (hsource'.symm.trans hp'.source)
    exact ⟨source', hp'.timedStep now hheld (hheld vp hvp)⟩

/-! ## Seeks -/

/-- The frame that is prefetched in the source. -/
def prefetched (s : Session (MediaSource D B)) : Option VideoPacket :=
  s.mediaSource.bind (·.prefetchVp)

/-- The session is at the start of a pass; the old frame may still be prefetched. -/
def Starts (old : Option VideoPacket) (s : Session (MediaSource D B)) : Prop :=
  s.firstFrame = true ∧ ∃ m, s.mediaSource = some m ∧ m.Fresh old

/-- A step goes on with the pass, or it seeks and starts one. -/
def Schedules (s s' : Session (MediaSource D B)) : Prop :=
  Continues s s' ∨ ∃ l, s'.log = s.log ++ l ∧ .sought ∈ l ∧ Starts (prefetched s) s'

section

omit [FFmpeg D B]

theorem Starts.pass {old : Option VideoPacket} {s : Session (MediaSource D B)}
    (h : Starts old s) : ∃ m, Pass old m [] s := by
  obtain ⟨hff, m, hsource, hfresh⟩ := h
  refine ⟨m, hsource, hfresh, fun hff' => ?_, fun _ e he => ?_, fun a now ha => ?_,
    fun a now ha => ?_⟩
  · rw [hff] at hff'
    cases hff'
  · cases he
  · cases ha
  · cases ha

theorem Starts.aside {old : Option VideoPacket} {s s' : Session (MediaSource D B)}
    (h : Starts old s) (ha : Aside s s') : Starts old s' := by
  obtain ⟨hff, m, hsource, hfresh⟩ := h
  exact ⟨(congrArg Stream.firstFrame ha.stream).trans hff, m,
    (congrArg Stream.source ha.stream).trans hsource, hfresh⟩

theorem Schedules.aside {s t u : Session (MediaSource D B)} (h : Schedules s t) (ha : Aside t u) :
    Schedules s u := by
  rcases h with h | ⟨l, hlog, hl, hstarts⟩
  · exact .inl (h.trans (continues_aside ha))
  · obtain ⟨l', hlog', -⟩ := ha.log
    exact .inr ⟨l ++ l', by rw [hlog', hlog, List.append_assoc], List.mem_append_left _ hl,
      hstarts.aside ha⟩

/-- A step before that leaves the source alone. -/
theorem Schedules.after {s t u : Session (MediaSource D B)} (h : Continues s t)
    (hsource : t.mediaSource = s.mediaSource) (h' : Schedules t u) : Schedules s u := by
  rcases h' with h' | ⟨l', hlog', hl', hstarts⟩
  · exact .inl (h.trans h')
  · obtain ⟨l, -, hlog, -⟩ := h
    refine .inr ⟨l ++ l', by rw [hlog', hlog, List.append_assoc], List.mem_append_right _ hl', ?_⟩
    rwa [prefetched, ← hsource]

end

theorem schedules_pace (env : Env (MediaSource D B)) (now : Int) (s : Session (MediaSource D B)) :
    Schedules s (s.pace env now) := by
  rcases pace_cases env now s with
    ⟨pause, pending, hpending, heq⟩ | ⟨source, t, hsource, -, -, ht, heq⟩
  · rw [heq]
    exact .inl (.of_same [] (List.append_nil _).symm (fun _ he => nomatch he) rfl rfl rfl hpending)
  · rw [heq]
    rcases pass_fetches ht with ⟨hlog, hpass⟩ | ⟨hlog, hnone, hff, m, hm, hprefetch⟩
    · left
      rcases pacePending_cases env now t with heq | ⟨source', vp, u, hsource', hvp, hu, heq⟩
      · rw [heq]
        refine ⟨[], List.not_mem_nil, by rw [hlog, List.append_nil], fun _ old m pass hp => ?_⟩
        obtain rfl := Option.some.inj (hsource.symm.trans hp.source)
        obtain ⟨m', hp', -⟩ := hpass old pass hp
        exact ⟨m', by rwa [List.append_nil]⟩
      · have htimed : Continues s u := by
          rw [hu]
          exact continues_timed now hsource hlog hpass hsource' hvp
        rcases heq with heq | heq
        · rw [heq]
          exact htimed
        · rw [heq]
          exact ((htimed.trans (continues_sendFrame env source' vp u)).trans
            (continues_trackFrame source' vp _)).trans (continues_paceAudio env now source' _)
    · -- the source has started again and no frame is held
      have hidle : t.pacePending env now = t := by
        rcases pacePending_cases env now t with heq | ⟨_, vp, _, _, hvp, _⟩
        · exact heq
        · rw [hnone] at hvp
          cases hvp
      rw [hidle]
      exact .inr ⟨[.sought], hlog, List.mem_singleton.mpr rfl, hff, m, hm, .of_none _ hprefetch⟩

/-- `seekAndReset`: without a source nothing happens. -/
theorem seekAndReset_cases (secs : Rat) (adjust : Bool) (s : Session (MediaSource D B)) :
    (s.mediaSource = none ∧ s.seekAndReset secs adjust = s) ∨
    ((s.seekAndReset secs adjust).log = s.log ++ [.sought] ∧
      (s.seekAndReset secs adjust).firstFrame = true ∧
      ∃ m', (s.seekAndReset secs adjust).mediaSource = some m' ∧
        m'.prefetchVp = prefetched s) := by
  unfold seekAndReset prefetched
  split
  · next hnone => exact .inl ⟨hnone, rfl⟩
  · next m hm =>
      refine .inr ⟨rfl, rfl, _, rfl, ?_⟩
      rw [hm]
      split <;> exact MediaSource.seekToSeconds_prefetchVp secs m

theorem schedules_seekAndReset (secs : Rat) (adjust : Bool) (s : Session (MediaSource D B)) :
    Schedules s (s.seekAndReset secs adjust) := by
  rcases seekAndReset_cases secs adjust s with ⟨-, heq⟩ | ⟨hlog, hff, m', hm', hsame⟩
  · rw [heq]
    exact .inl (continues_aside (.refl s))
  · exact .inr ⟨_, hlog, List.mem_singleton.mpr rfl, hff, m', hm', .of_old hsame⟩

/-- A fresh PLAY seeks and prefetches the first frame of the pass. -/
theorem schedules_freshPlay (start stop : Rat) (url : Bytes) (s : Session (MediaSource D B)) :
    Schedules s ((s.freshPlay start stop).rtpInfo url).2 := by
  unfold rtpInfo freshPlay
  rcases seekAndReset_cases start false s with ⟨hnone, heq⟩ | ⟨hlog, hff, m', hm', hsame⟩
  · -- a pass has a source
    rw [heq]
    dsimp only
    rw [hnone]
    refine .inl ⟨[], List.not_mem_nil, (List.append_nil _).symm, fun _ old m pass hp => ?_⟩
    have hsource := hp.source
    rw [hnone] at hsource
    cases hsource
  · dsimp only
    rw [hm']
    exact .inr ⟨_, hlog, List.mem_singleton.mpr rfl, hff, _, rfl,
      MediaSource.peekNextVideoRTPTimestamp_fresh (.of_old hsame)⟩

theorem schedules_handleRequest (env : Env (MediaSource D B)) (req : RTSPRequest)
    (s : Session (MediaSource D B)) (h : req.method ≠ ascii "DESCRIBE") :
    Schedules s (sessionOf (s.handleRequest env req)) := by
  by_cases hplay : req.method = ascii "PLAY"
  · rw [handleRequest_play env s hplay]
    change Schedules s (s.handlePlay env req)
    rcases handlePlay_cases env req s with ha | ⟨secs, ha⟩ | ⟨start, stop, ha⟩
    · exact .inl (continues_aside ha)
    · exact (schedules_seekAndReset secs true s).aside ha
    · exact (schedules_freshPlay start stop req.url s).aside ha
  · exact .inl (continues_aside (aside_handleRequest env s h hplay))

/-- Each step of a session. -/
theorem schedules_step {s : Session (MediaSource D B)} {a : SessionAct (MediaSource D B)}
    {t : Handled (MediaSource D B)} (h : sessionStep (.ok s) a = some t) :
    Schedules s (sessionOf t) := by
  cases a with
  | command req =>
      obtain rfl := Option.some.inj h
      exact .inl (.of_same [] (List.append_nil _).symm (fun _ he => nomatch he) rfl rfl rfl
        (.inr rfl))
  | handle env =>
      simp only [sessionStep] at h
      split at h
      · cases h
      · next req rest hq =>
          obtain rfl := Option.some.inj h
          have htake : Continues s ({ s with cmdQueue := rest }.emit (.request req)) :=
            .of_same [.request req] rfl (by simp [Event.isMark]) rfl rfl rfl (.inr rfl)
          by_cases hdescribe : req.method = ascii "DESCRIBE"
          · rw [handleNext, handleRequest_describe env _ hdescribe]
            obtain ⟨-, tail, hlog, htail⟩ := aside_handleDescribe env req
              ({ s with cmdQueue := rest }.emit (.request req))
            refine .inl ⟨.request req :: tail, ?_, ?_, fun hin => ?_⟩
            · refine not_sought_of_unmarked fun e he => ?_
              rcases List.mem_cons.mp he with rfl | he
              · rfl
              · exact isMark_of_isExchange (htail e he)
            · exact hlog.trans (List.append_assoc _ _ _)
            · have hno : decide (req.method = ascii "DESCRIBE") = false :=
                hin (.request req) (by simp)
              exact absurd hdescribe (of_decide_eq_false hno)
          · exact .after htake rfl (schedules_handleRequest env req _ hdescribe)
  | pace env now =>
      obtain rfl := Option.some.inj h
      exact schedules_pace env now s

/-! ## Runs -/

omit [FFmpeg D B] in
theorem Schedules.carries {s s' : Session (MediaSource D B)} (h : Schedules s s') :
    ∃ l, Carries s l s' := by
  rcases h with ⟨l, -, hc⟩ | ⟨l, hlog, hl, -⟩
  · exact ⟨l, hc⟩
  · exact ⟨l, hlog, fun hin => Bool.noConfusion (hin _ hl)⟩

/-- A run carries a pass as long as nothing in it starts another. -/
theorem carries_run {t₀ t : Handled (MediaSource D B)} {as : List (SessionAct (MediaSource D B))}
    (h : Lts.run sessionStep t₀ as = some t) : ∃ l, Carries (sessionOf t₀) l (sessionOf t) := by
  refine Lts.run_stable (I := fun u => ∃ l, Carries (sessionOf t₀) l (sessionOf u)) ?_ ?_ h
  · intro u a u' hu hstep
    cases u with
    | error s => cases hstep
    | ok s =>
        obtain ⟨l, hl⟩ := hu
        obtain ⟨l', hl'⟩ := (schedules_step hstep).carries
        exact ⟨l ++ l', hl.trans hl'⟩
  · exact ⟨[], (List.append_nil _).symm, fun _ old m pass hp => ⟨m, by rwa [List.append_nil]⟩⟩

/-- A seek starts a pass. -/
theorem pass_of_seek {s : Session (MediaSource D B)} {a : SessionAct (MediaSource D B)}
    {t : Handled (MediaSource D B)} {l : List Event} (h : sessionStep (.ok s) a = some t)
    (hlog : (sessionOf t).log = s.log ++ l) (hl : .sought ∈ l) :
    ∃ m, Pass (prefetched s) m [] (sessionOf t) := by
  rcases schedules_step h with ⟨l', hl', hlog', -⟩ | ⟨l', -, -, hstarts⟩
  · rw [hlog] at hlog'
    rw [List.append_cancel_left hlog'] at hl
    exact absurd hl hl'
  · exact hstarts.pass

/-! ## The schedule follows the media time -/

/-- The offsets of the timed frames are their distances from the anchor, 0 for earlier ones; a
    frame is not scheduled behind one with a later time. -/
def FollowsMedia (m : MediaSource D B) (anchor : VideoPacket) (pass : List Event) : Prop :=
  (∀ (f : VideoPacket) (k : Nat), .timed f k ∈ pass → k = max 0 (m.tick f - m.tick anchor)) ∧
    ∀ f k g j, .timed f k ∈ pass → .timed g j ∈ pass → m.tick f ≤ m.tick g → k ≤ j

/-- **The schedule follows the media time**, in every pass of a session: after a seek, up to the
    next seek or DESCRIBE, with all frames less than 2^31 ticks from the anchor and the frame
    prefetched before the seek, if there was one, stamped by the clock of the pass, each timed
    frame has the offset of its time from the anchor, if and only if no timed frame has a time
    before the anchor. -/
theorem schedule_iff (s : Session (MediaSource D B)) (a : SessionAct (MediaSource D B))
    (t₀ t : Handled (MediaSource D B)) (as : List (SessionAct (MediaSource D B)))
    (seek pass : List Event) (m : MediaSource D B) (anchor : VideoPacket) (now : Int)
    (hseek : sessionStep (.ok s) a = some t₀) (hlog : (sessionOf t₀).log = s.log ++ seek)
    (hsought : .sought ∈ seek) (hpre : ∀ vp ∈ prefetched s, m.Stamped vp)
    (hrun : Lts.run sessionStep t₀ as = some t)
    (hlog' : (sessionOf t).log = (sessionOf t₀).log ++ pass) (hin : InPass pass)
    (hm : (sessionOf t).mediaSource = some m) (hanchor : .anchored anchor now ∈ pass)
    (htime : anchor.pktData.time ≠ avNoPtsValue)
    (htimes : ∀ f k, .timed f k ∈ pass → f.pktData.time ≠ avNoPtsValue)
    (hnear : ∀ f k, .timed f k ∈ pass → |m.tick f - m.tick anchor| < 2 ^ 31) :
    FollowsMedia m anchor pass ↔ ∀ f k, .timed f k ∈ pass → m.tick anchor ≤ m.tick f := by
  obtain ⟨m₀, hp₀⟩ := pass_of_seek hseek hlog hsought
  obtain ⟨l, hlogl, hcarry⟩ := carries_run hrun
  rw [hlog'] at hlogl
  obtain rfl := List.append_cancel_left hlogl
  obtain ⟨m', hp⟩ := hcarry hin _ m₀ [] hp₀
  obtain rfl := Option.some.inj (hm.symm.trans hp.source)
  rw [List.nil_append] at hp
  have hstamped : ∀ vp, m.StampedBut (prefetched s) vp → m.Stamped vp :=
    fun vp hvp => hvp.elim id (hpre vp)
  have hoffset : ∀ (f : VideoPacket) (k : Nat), .timed f k ∈ pass →
      k = (m.tick f - m.tick anchor) % 2 ^ 32 := by
    intro f k hf
    obtain ⟨hstamp, hk⟩ := hp.timed anchor now hanchor f k hf
    rw [hk]
    exact (hstamped f hstamp).sub (hstamped anchor (hp.anchor anchor now hanchor).2)
      (htimes f k hf) htime
  constructor
  · intro hfollows f k hf
    have hmax := hfollows.1 f k hf
    rw [hoffset f k hf] at hmax
    have := (clock_sub_eq_iff _ (hnear f k hf)).mp hmax
    omega
  · intro hafter
    have hexact : ∀ (f : VideoPacket) (k : Nat), .timed f k ∈ pass →
        k = max 0 (m.tick f - m.tick anchor) := by
      intro f k hf
      have hle := hafter f k hf
      rw [hoffset f k hf]
      exact (clock_sub_eq_iff _ (hnear f k hf)).mpr (by omega)
    refine ⟨hexact, fun f k g j hf hg hle => ?_⟩
    have hk := hexact f k hf
    have hj := hexact g j hg
    omega

/-- A video packet of the demonstration files. -/
def demoPacket (pts dts : Int) (key : Bool) : AVPacket :=
  { streamIndex := 0, pts := pts, dts := dts, key := key, duration := 3600
    data := [0, 0, 0, 1, if key then 0x65 else 0x41, 0x88] }

/-- The frame of such a packet. -/
def demoFrame (p : AVPacket) (ts : UInt32) : VideoPacket :=
  { nals := AnnexBParser.splitView p.data, pktData := p, rtpTimestamp := ts, isKeyFrame := p.key
    duration := p.duration }

/-- The machine with a file of these packets. -/
def machine (ps : List AVPacket) : Env (MediaSource PacketList Unit) :=
  { oneFile with openSource := fun p =>
      if p = ascii "/media/a.mp4" then some (PacketList.source clip.streamInfo ps) else none }

/-- DESCRIBE and SETUP are handled and PLAY is pushed. -/
def untilPlay (ps : List AVPacket) : List (SessionAct (MediaSource PacketList Unit)) :=
  [.command (describeRequest "rtsp://h/a.mp4"), .handle (machine ps),
    .command (setupRequest "RTP/AVP/TCP;unicast;interleaved=0-1"), .handle (machine ps),
    .command playRequest]

/-- Two ticks. -/
def twoTicks (ps : List AVPacket) : List (SessionAct (MediaSource PacketList Unit)) :=
  [.pace (machine ps) 1, .pace (machine ps) 1]

/-- The timed frames among the events. -/
def timedFrames (log : List Event) : List (VideoPacket × Nat) :=
  log.filterMap fun e => match e with
    | .timed f k => some (f, k)
    | _ => none

theorem mem_timedFrames {log : List Event} {f : VideoPacket} {k : Nat} :
    .timed f k ∈ log ↔ (f, k) ∈ timedFrames log := by
  unfold timedFrames
  rw [List.mem_filterMap]
  constructor
  · exact fun h => ⟨_, h, rfl⟩
  · intro ⟨e, he, hf⟩
    split at hf
    · obtain ⟨rfl, rfl⟩ := Prod.mk.inj (Option.some.inj hf)
      exact he
    · cases hf

instance (m : MediaSource D B) (vp : VideoPacket) : Decidable (m.Stamped vp) :=
  inferInstanceAs (Decidable (_ → _ ∧ _))

/-- The steps after a PLAY are a pass with this anchor, these timed frames and these ticks of them,
    and the clock of the pass has stamped the frame that was prefetched before. -/
def playsPass (ps : List AVPacket) (before after : List (SessionAct (MediaSource PacketList Unit)))
    (old : Option VideoPacket) (anchor : VideoPacket) (frames : List (VideoPacket × Nat))
    (ticks : List Int) : Bool :=
  match Lts.run sessionStep (.ok client) before with
  | some (.ok s) =>
      match sessionStep (.ok s) (.handle (machine ps)) with
      | none => false
      | some t₀ =>
          match Lts.run sessionStep t₀ after with
          | none => false
          | some t =>
              let seek := (sessionOf t₀).log.drop s.log.length
              let pass := (sessionOf t).log.drop (sessionOf t₀).log.length
              decide (prefetched s = old ∧
                (sessionOf t₀).log = s.log ++ seek ∧ .sought ∈ seek ∧
                (sessionOf t).log = (sessionOf t₀).log ++ pass ∧
                (∀ e ∈ pass, e.endsPass = false) ∧ .anchored anchor 1 ∈ pass ∧
                timedFrames pass = frames ∧
                (sessionOf t).mediaSource.map (fun m =>
                  (frames.map fun p => m.tick p.1, decide (∀ vp ∈ old, m.Stamped vp))) =
                    some (ticks, true))
  | _ => false

theorem playsPass_spec {ps : List AVPacket}
    {before after : List (SessionAct (MediaSource PacketList Unit))} {old : Option VideoPacket}
    {anchor : VideoPacket} {frames : List (VideoPacket × Nat)} {ticks : List Int}
    (h : playsPass ps before after old anchor frames ticks = true) :
    ∃ s t₀ t seek pass m, Lts.run sessionStep (.ok client) before = some (.ok s) ∧
      sessionStep (.ok s) (.handle (machine ps)) = some t₀ ∧
      (sessionOf t₀).log = s.log ++ seek ∧ .sought ∈ seek ∧ prefetched s = old ∧
      Lts.run sessionStep t₀ after = some t ∧
      (sessionOf t).log = (sessionOf t₀).log ++ pass ∧ InPass pass ∧
      (sessionOf t).mediaSource = some m ∧ (∀ vp ∈ old, m.Stamped vp) ∧
      .anchored anchor 1 ∈ pass ∧ timedFrames pass = frames ∧
      frames.map (fun p => m.tick p.1) = ticks := by
  unfold playsPass at h
  split at h
  · next s hs =>
      split at h
      · cases h
      · next t₀ ht₀ =>
          split at h
          · cases h
          · next t ht =>
              obtain ⟨hpre, hlog, hsought, hlog', hin, hanchor, hframes, hticks⟩ :=
                of_decide_eq_true h
              obtain ⟨m, hm, hmap⟩ := Option.map_eq_some_iff.mp hticks
              obtain ⟨hticks, hold⟩ := Prod.mk.inj hmap
              exact ⟨s, t₀, t, _, _, m, hs, ht₀, hlog, hsought, hpre, ht, hlog', hin, hm,
                of_decide_eq_true hold, hanchor, hframes, hticks⟩
  · cases h

/-- A key frame and the frame behind it. -/
def inOrder : List AVPacket := [demoPacket 0 0 true, demoPacket 3600 3600 false]

/-- A second PLAY is pushed before any tick: what the first one has prefetched is still there. -/
def untilPlayedAgain (ps : List AVPacket) : List (SessionAct (MediaSource PacketList Unit)) :=
  untilPlay ps ++ [.handle (machine ps), .command playRequest]

/-- The key frame is read twice, once as the frame prefetched before the seek. -/
theorem schedule_iff_inOrder : ∃ s t₀ t pass m,
    Lts.run sessionStep (.ok client) (untilPlayedAgain inOrder) = some (.ok s) ∧
      prefetched s = some (demoFrame (demoPacket 0 0 true) 0) ∧
      sessionStep (.ok s) (.handle (machine inOrder)) = some t₀ ∧
      Lts.run sessionStep t₀ (twoTicks inOrder ++ [.pace (machine inOrder) 1]) = some t ∧
      (sessionOf t).log = (sessionOf t₀).log ++ pass ∧ (sessionOf t).mediaSource = some m ∧
      .timed (demoFrame (demoPacket 3600 3600 false) 3600) 3600 ∈ pass ∧
      FollowsMedia m (demoFrame (demoPacket 0 0 true) 0) pass := by
  have hplays : playsPass inOrder (untilPlayedAgain inOrder)
      (twoTicks inOrder ++ [.pace (machine inOrder) 1])
      (some (demoFrame (demoPacket 0 0 true) 0)) (demoFrame (demoPacket 0 0 true) 0)
      [(demoFrame (demoPacket 0 0 true) 0, 0), (demoFrame (demoPacket 0 0 true) 0, 0),
        (demoFrame (demoPacket 3600 3600 false) 3600, 3600)] [0, 0, 3600] = true := by
    decide +kernel
  obtain ⟨s, t₀, t, seek, pass, m, hs, hseek, hlog, hsought, hpre, hrun, hlog', hin, hm, hold,
    hanchor, hframes, hticks⟩ := playsPass_spec hplays
  simp only [List.map_cons, List.map_nil, List.cons.injEq, and_true] at hticks
  obtain ⟨hkey, -, hnext⟩ := hticks
  have hmem : ∀ f k, .timed f k ∈ pass → f = demoFrame (demoPacket 0 0 true) 0 ∨
      f = demoFrame (demoPacket 3600 3600 false) 3600 := by
    intro f k hf
    rw [mem_timedFrames, hframes] at hf
    simp only [List.mem_cons, Prod.mk.injEq, List.not_mem_nil, or_false] at hf
    rcases hf with hf | hf | hf
    · exact .inl hf.1
    · exact .inl hf.1
    · exact .inr hf.1
  refine ⟨s, t₀, t, pass, m, hs, hpre, hseek, hrun, hlog', hm, ?_, ?_⟩
  · rw [mem_timedFrames, hframes]
    simp
  · refine (schedule_iff s _ t₀ t _ seek pass m _ 1 hseek hlog hsought (by rw [hpre]; exact hold)
      hrun hlog' hin hm hanchor (by decide) ?_ ?_).mpr ?_
    · intro f k hf
      rcases hmem f k hf with rfl | rfl <;> decide
    · intro f k hf
      rcases hmem f k hf with rfl | rfl
      · rw [hkey]; decide
      · rw [hkey, hnext]; decide
    · intro f k hf
      rcases hmem f k hf with rfl | rfl
      · exact le_refl _
      · rw [hkey, hnext]; decide

/-- A key frame and a leading B-frame, 40 ms before it in time. -/
def openGop : List AVPacket := [demoPacket 7200 0 true, demoPacket 3600 3600 false]

/-- The B-frame is scheduled 2^32 - 3600 ticks behind the key frame, which is over 13 hours. -/
theorem openGop_stalls : ∃ s t₀ t seek pass m,
    Lts.run sessionStep (.ok client) (untilPlay openGop) = some (.ok s) ∧
      sessionStep (.ok s) (.handle (machine openGop)) = some t₀ ∧
      (sessionOf t₀).log = s.log ++ seek ∧ .sought ∈ seek ∧ prefetched s = none ∧
      Lts.run sessionStep t₀ (twoTicks openGop) = some t ∧
      (sessionOf t).log = (sessionOf t₀).log ++ pass ∧ InPass pass ∧
      (sessionOf t).mediaSource = some m ∧
      .anchored (demoFrame (demoPacket 7200 0 true) 7200) 1 ∈ pass ∧
      .timed (demoFrame (demoPacket 3600 3600 false) 3600) 4294963696 ∈ pass ∧
      m.tick (demoFrame (demoPacket 7200 0 true) 7200) = 0 ∧
      m.tick (demoFrame (demoPacket 3600 3600 false) 3600) = -3600 ∧
      ¬ FollowsMedia m (demoFrame (demoPacket 7200 0 true) 7200) pass := by
  have hplays : playsPass openGop (untilPlay openGop) (twoTicks openGop) none
      (demoFrame (demoPacket 7200 0 true) 7200)
      [(demoFrame (demoPacket 7200 0 true) 7200, 0),
        (demoFrame (demoPacket 3600 3600 false) 3600, 4294963696)] [0, -3600] = true := by
    decide +kernel
  obtain ⟨s, t₀, t, seek, pass, m, hs, hseek, hlog, hsought, hpre, hrun, hlog', hin, hm, -, hanchor,
    hframes, hticks⟩ := playsPass_spec hplays
  simp only [List.map_cons, List.map_nil, List.cons.injEq, and_true] at hticks
  have htimed : .timed (demoFrame (demoPacket 3600 3600 false) 3600) 4294963696 ∈ pass := by
    rw [mem_timedFrames, hframes]
    simp
  refine ⟨s, t₀, t, seek, pass, m, hs, hseek, hlog, hsought, hpre, hrun, hlog', hin, hm, hanchor,
    htimed, hticks.1, hticks.2, fun hfollows => ?_⟩
  have hmax := hfollows.1 _ _ htimed
  rw [hticks.1, hticks.2] at hmax
  exact absurd hmax (by decide)

end RtspServer
