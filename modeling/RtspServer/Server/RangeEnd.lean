/-
  The end of a Range. From a seek to the next one the session sends the frames of its source that
  lie in front of `npt_end_`, from the first such key frame on: a frame at or behind the end is
  thrown away when it is read, and the session pauses itself. A PLAY that resumes it goes on with
  the frames behind; those that a source returns late but that lie in front of the end are sent.

  `inRange` says it of a list of frames, as `playable` of `PassFrames` does for a PLAY without an
  end. `Selected` is the invariant of a pass, as `VideoInOrder` is there.
-/
import RtspServer.Server.PassFrames

namespace RtspServer

open ByteString Session IMediaSource

variable {M : Type}

/-- The frame is at or behind this end. -/
def behind (stop : Rat) (vp : VideoPacket) : Bool :=
  0 < stop && stop ≤ (vp.rtpTimestamp.toNat : Rat) / 90000

/-- The frame cannot be the first one. -/
def held (stop : Rat) (vp : VideoPacket) : Bool := !(vp.isKeyFrame && !behind stop vp)

/-- The frames from the first one on. -/
def fromFirst (stop : Rat) (vs : List VideoPacket) : List VideoPacket :=
  (vs.filter fun vp => vp.nals ≠ []).dropWhile (held stop)

/-- The frames that are to be sent of those read after a seek, with this end. -/
def inRange (stop : Rat) (vs : List VideoPacket) : List VideoPacket :=
  (fromFirst stop vs).filter fun vp => !behind stop vp

theorem behind_of_mem {stop : Rat} {vs : List VideoPacket} {vp : VideoPacket}
    (h : vp ∈ inRange stop vs) : behind stop vp = false := by
  have hok := (List.mem_filter.mp h).2
  rwa [Bool.not_eq_true'] at hok

/-- The first frame is not behind the end. -/
theorem inRange_eq_nil {stop : Rat} {vs : List VideoPacket} :
    inRange stop vs = [] ↔ fromFirst stop vs = [] := by
  refine ⟨fun h => ?_, fun h => by rw [inRange, h]; rfl⟩
  by_contra hne
  have hhead := List.head_dropWhile_not (held stop) hne
  have hmem : (fromFirst stop vs).head hne ∈ inRange stop vs := by
    refine List.mem_filter.mpr ⟨List.head_mem hne, ?_⟩
    have hopen : (!((fromFirst stop vs).head hne).isKeyFrame ||
        behind stop ((fromFirst stop vs).head hne)) = false := by
      simpa [held, fromFirst] using hhead
    rw [(Bool.or_eq_false_iff.mp hopen).2]
    rfl
  rw [h] at hmem
  cases hmem

/-- The next frame that is read. -/
theorem fromFirst_append (stop : Rat) (vs : List VideoPacket) (vp : VideoPacket) :
    fromFirst stop (vs ++ [vp]) =
      if vp.nals = [] ∨ fromFirst stop vs = [] ∧ held stop vp = true then fromFirst stop vs
      else fromFirst stop vs ++ [vp] := by
  unfold fromFirst
  rw [List.filter_append, List.dropWhile_append]
  generalize (vs.filter fun vp => vp.nals ≠ []).dropWhile (held stop) = first
  by_cases hnals : vp.nals = [] <;> by_cases hheld : held stop vp = true <;>
    cases first <;> simp [hnals, hheld]

theorem inRange_skip {stop : Rat} {vs : List VideoPacket} {vp : VideoPacket}
    (h : vp.nals = [] ∨ behind stop vp = true ∨ inRange stop vs = [] ∧ vp.isKeyFrame = false) :
    inRange stop (vs ++ [vp]) = inRange stop vs := by
  rw [inRange_eq_nil] at h
  unfold inRange
  rw [fromFirst_append]
  split
  · rfl
  · next hnext =>
      obtain ⟨hnals, hstarted⟩ := not_or.mp hnext
      have hb : behind stop vp = true := by
        refine (h.resolve_left hnals).resolve_right fun ⟨hempty, hkey⟩ => hstarted ⟨hempty, ?_⟩
        rw [held, hkey]
        rfl
      rw [List.filter_append, List.filter_cons_of_neg (by rw [hb]; decide)]
      exact List.append_nil _

theorem inRange_next {stop : Rat} {vs : List VideoPacket} {vp : VideoPacket} (hnals : vp.nals ≠ [])
    (hb : behind stop vp = false) (hkey : inRange stop vs = [] → vp.isKeyFrame = true) :
    inRange stop (vs ++ [vp]) = inRange stop vs ++ [vp] := by
  have hnext : ¬ (vp.nals = [] ∨ fromFirst stop vs = [] ∧ held stop vp = true) := by
    rintro (hno | ⟨hempty, hheld⟩)
    · exact hnals hno
    · rw [held, hkey (inRange_eq_nil.mpr hempty), hb] at hheld
      cases hheld
  unfold inRange
  rw [fromFirst_append, if_neg hnext, List.filter_append,
    List.filter_cons_of_pos (by rw [hb]; rfl)]
  rfl

/-! ## The invariant of a pass -/

/-- The video frames of a pass: none before the first one; then those sent and the one held are
    those in front of the end. A session that neither plays nor is paused may have dropped the
    held one. -/
structure Selected (stop : Rat) (vs : List VideoPacket) (pass : List Event) (s : Session M) :
    Prop where
  waiting : s.firstFrame = true → s.pendingVp = none ∧ inRange stop vs = []
  started : s.firstFrame = false → s.resumeWaitingForIdr = false ∧ inRange stop vs ≠ []
  sent : sentFrames pass <+: inRange stop vs
  kept : s.Active → sentFrames pass ++ s.pendingVp.toList = inRange stop vs

/-- A step that leaves the video frames alone. -/
theorem Selected.of_same {stop : Rat} {vs vs' : List VideoPacket} {pass l : List Event}
    {s s' : Session M} (h : Selected stop vs pass s) (hl : sentFrames l = [])
    (hvs : inRange stop vs' = inRange stop vs) (hfirst : s'.firstFrame = s.firstFrame)
    (hgate : s.resumeWaitingForIdr = false → s'.resumeWaitingForIdr = false)
    (hvp : s'.pendingVp = s.pendingVp ∨ s'.pendingVp = none ∧ ¬ s'.Active)
    (hactive : s'.Active → s.Active) : Selected stop vs' (pass ++ l) s' := by
  have hsent : sentFrames (pass ++ l) = sentFrames pass := by
    rw [sentFrames_append, hl, List.append_nil]
  refine ⟨fun hff => ?_, fun hff => ?_, by rw [hsent, hvs]; exact h.sent, fun ha => ?_⟩
  · obtain ⟨hnone, hempty⟩ := h.waiting (hfirst ▸ hff)
    refine ⟨?_, hvs.trans hempty⟩
    rcases hvp with hvp | ⟨hvp, -⟩
    · exact hvp.trans hnone
    · exact hvp
  · obtain ⟨hopen, hne⟩ := h.started (hfirst ▸ hff)
    exact ⟨hgate hopen, by rw [hvs]; exact hne⟩
  · rcases hvp with hvp | ⟨-, hno⟩
    · rw [hsent, hvp, hvs]
      exact h.kept (hactive ha)
    · exact absurd ha hno

/-- The next frame is sent. -/
theorem Selected.send {stop : Rat} {vs : List VideoPacket} {pass l : List Event} {s : Session M}
    {vp : VideoPacket} (hplay : inRange stop vs = sentFrames pass ++ [vp])
    (hl : sentFrames l = [vp]) (hfirst : s.firstFrame = false)
    (hgate : s.resumeWaitingForIdr = false) (hvp : s.pendingVp = none) :
    Selected stop vs (pass ++ l) s := by
  have hsent : sentFrames (pass ++ l) = inRange stop vs := by
    rw [sentFrames_append, hl, hplay]
  refine ⟨fun hff => ?_, fun _ => ⟨hgate, ?_⟩, by rw [hsent], fun _ => ?_⟩
  · rw [hfirst] at hff
    cases hff
  · rw [hplay]
    exact List.append_ne_nil_of_right_ne_nil _ (List.cons_ne_nil _ _)
  · rw [hsent, hvp, Option.toList_none, List.append_nil]

variable [IMediaSource M]

/-- The invariant of a pass that starts with the source `m₀`. -/
structure InRange (m₀ : M) (stop : Rat) (pass : List Event) (s : Session M) : Prop where
  nptEnd : s.nptEnd = stop
  up : s.TransportUp
  frames : ∃ m vs aps, s.mediaSource = some m ∧ Reads m₀ vs aps m ∧ Selected stop vs pass s

/-- The frame a tick holds is the next one to send. -/
theorem Holds.inRange {now : Int} {source source' : M} {vp : VideoPacket} {s t : Session M}
    {vs : List VideoPacket} {pass : List Event} (h : Holds now source s vp source' t)
    (hv : Selected s.nptEnd vs pass s) (hs : s.Active) :
    ∃ vs', Reads source vs' [] source' ∧
      inRange s.nptEnd (vs ++ vs') = sentFrames pass ++ [vp] := by
  cases h with
  | kept _ _ _ _ _ hheld =>
      have hsent := hv.kept hs
      rw [hheld] at hsent
      exact ⟨[], .refl source, by rw [List.append_nil]; exact hsent.symm⟩
  | read _ _ _ _ _ hnone hread hnals hgate hend =>
      have hvp : s.pendingVp = none := hnone.elim (fun hff => (hv.waiting hff).1) id
      have hsent := hv.kept hs
      rw [hvp, Option.toList_none, List.append_nil] at hsent
      refine ⟨[vp], (Reads.refl source).video hread, ?_⟩
      rw [hsent]
      refine inRange_next hnals hend fun hempty => hgate (.inl ?_)
      by_contra hff
      exact (hv.started (Bool.of_not_eq_true hff)).2 hempty

/-- Step 2 keeps a held frame of a session that is paused. A session that plays and does not
    stream has no video transport. -/
theorem inRange_idle {m₀ : M} {stop : Rat} {pass : List Event} {s : Session M} (now : Int)
    (hI : InRange m₀ stop pass s) (hs : ¬ s.Streaming) :
    InRange m₀ stop pass (s.notStreaming now) := by
  obtain ⟨pause, heq⟩ := notStreaming_eq now s
  obtain ⟨m, vs, aps, hm, hreads, hv⟩ := hI.frames
  rw [heq]
  have hnot : s.state ≠ .playing := fun hplay =>
    hs ⟨hplay, by rw [hm]; rfl, hI.up (by rw [hplay]; decide)⟩
  rw [← List.append_nil pass]
  refine ⟨hI.nptEnd, hI.up, m, vs, aps, hm, hreads, hv.of_same rfl rfl rfl id ?_ id⟩
  by_cases hp : s.state = .paused
  · exact .inl (if_pos hp)
  · exact .inr ⟨if_neg hp, fun h => h.elim hnot hp⟩

/-- A tick without a frame: what it reads is not to be sent. -/
theorem inRange_passes {m₀ : M} {stop : Rat} {pass l : List Event} {now : Int} {source : M}
    {s t : Session M} (hI : InRange m₀ stop pass s) (hs : s.Streaming)
    (hsource : s.mediaSource = some source) (h : Passes now source s t)
    (hlog : t.log = s.log ++ l) (hin : InPass l) : InRange m₀ stop (pass ++ l) t := by
  obtain ⟨m, vs, aps, hm, hreads, hv⟩ := hI.frames
  obtain rfl := Option.some.inj (hsource.symm.trans hm)
  -- without a held frame the first one is yet to come, or all that was read is sent
  have hclosed : ∀ {vp : VideoPacket}, (s.firstFrame = true ∨ s.resumeWaitingForIdr = true) ∧
      vp.isKeyFrame = false → inRange stop vs = [] ∧ vp.isKeyFrame = false := by
    rintro vp ⟨hgates, hkey⟩
    refine ⟨?_, hkey⟩
    by_contra hne
    have hff : s.firstFrame = false := by
      rw [← Bool.not_eq_true]
      exact fun hff => hne (hv.waiting hff).2
    rw [hff, (hv.started hff).1] at hgates
    rcases hgates with h | h <;> cases h
  cases h with
  | gated _ _ _ _ hfirst hgate =>
      rw [(hv.started hfirst).1] at hgate
      cases hgate
  | ended =>
      rw [← List.append_cancel_left hlog] at hin
      cases hin .sought (List.mem_singleton.mpr rfl)
  | skipped _ _ vp source' _ hnone hread hskip =>
      obtain rfl := List.self_eq_append_right.mp hlog
      have hheld : s.pendingVp = none := hnone.elim (fun hff => (hv.waiting hff).1) id
      refine ⟨hI.nptEnd, hI.up, source', vs ++ [vp], aps, rfl, hreads.video hread, ?_⟩
      exact hv.of_same rfl (inRange_skip (hskip.imp_right fun h => .inr (hclosed h))) rfl id
        (.inl hheld.symm) id
  | stopped _ _ vp source' _ hnone hread _ _ hend =>
      obtain rfl := List.self_eq_append_right.mp hlog
      have hheld : s.pendingVp = none := hnone.elim (fun hff => (hv.waiting hff).1) id
      have hbehind : behind stop vp = true := by
        rw [← hI.nptEnd]
        exact hend
      refine ⟨hI.nptEnd, fun _ => hs.2.2, source', vs ++ [vp], aps, rfl, hreads.video hread, ?_⟩
      exact hv.of_same rfl (inRange_skip (.inr (.inl hbehind))) rfl (fun _ => rfl)
        (.inl hheld.symm) fun _ => .inl hs.1

/-- A tick that holds a frame and waits. -/
theorem inRange_waits {m₀ : M} {stop : Rat} {pass : List Event} {now : Int}
    {source source' : M} {vp : VideoPacket} {s t : Session M} (k : Nat)
    (hI : InRange m₀ stop pass s) (hs : s.Streaming) (hsource : s.mediaSource = some source)
    (h : Holds now source s vp source' t) (hfirst : s.firstFrame = false) :
    InRange m₀ stop (pass ++ [.timed vp k]) (t.emit (.timed vp k)) := by
  obtain ⟨m, vs, aps, hm, hreads, hv⟩ := hI.frames
  obtain rfl := Option.some.inj (hsource.symm.trans hm)
  obtain rfl := hI.nptEnd
  obtain ⟨vs', hreads', hplay⟩ := h.inRange hv (.inl hs.1)
  obtain ⟨hm', hvp, hgate, hfirst'⟩ := h.facts hsource
  have hall := hreads.trans hreads'
  rw [List.append_nil] at hall
  have hsent : sentFrames (pass ++ [.timed vp k]) = sentFrames pass := by
    rw [sentFrames_append]
    exact List.append_nil _
  have hfields : t.nptEnd = s.nptEnd ∧ t.state = s.state ∧
      t.transportReady = s.transportReady := by
    cases h <;> exact ⟨rfl, rfl, rfl⟩
  refine ⟨hfields.1, fun _ => hfields.2.2.trans hs.2.2, _, _, _, hm', hall, fun hff => ?_,
    fun _ => ⟨hgate, ?_⟩, ?_, fun _ => ?_⟩
  · have hff : t.firstFrame = true := hff
    rw [hfirst', hfirst] at hff
    cases hff
  · rw [hplay]
    exact List.append_ne_nil_of_right_ne_nil _ (List.cons_ne_nil _ _)
  · rw [hsent, hplay]
    exact List.prefix_append _ _
  · change sentFrames _ ++ t.pendingVp.toList = _
    rw [hsent, hplay, hvp]
    rfl

/-- A tick that sends a frame. `marks` are the events of steps 6 and 7, `u` the session after
    them. -/
theorem inRange_sends {m₀ : M} {stop : Rat} {pass l : List Event} {now : Int}
    {source source' : M} {vp : VideoPacket} {s t u : Session M} (env : Env M)
    (marks : List Event) (hI : InRange m₀ stop pass s) (hs : s.Streaming)
    (hsource : s.mediaSource = some source) (h : Holds now source s vp source' t)
    (hmarks : sentFrames marks = []) (hulog : u.log = t.log ++ marks)
    (hu : u = { t with
      wallStart := u.wallStart, loopVideoOffset := u.loopVideoOffset
      audioLoopOffset := u.audioLoopOffset, firstFrame := false, log := u.log })
    (hlog : (u.deliver env now source' vp).log = s.log ++ l) :
    InRange m₀ stop (pass ++ l) (u.deliver env now source' vp) := by
  obtain ⟨m, vs, aps, hm, hreads, hv⟩ := hI.frames
  obtain rfl := Option.some.inj (hsource.symm.trans hm)
  obtain rfl := hI.nptEnd
  obtain ⟨vs', hreads', hplay⟩ := h.inRange hv (.inl hs.1)
  obtain ⟨hm', -, hgate, -⟩ := h.facts hsource
  have hall := hreads.trans hreads'
  rw [List.append_nil] at hall
  have hfields : t.nptEnd = s.nptEnd ∧ t.transportReady = s.transportReady := by
    cases h <;> exact ⟨rfl, rfl⟩
  have hu' : u.nptEnd = s.nptEnd ∧ u.transportReady = true ∧ u.mediaSource = some source' ∧
      u.resumeWaitingForIdr = false ∧ u.firstFrame = false := by
    rw [hu]
    exact ⟨hfields.1, hfields.2.trans hs.2.2, hm', hgate, rfl⟩
  obtain ⟨hnpt, hready, hm', hgate, hff⟩ := hu'
  obtain ⟨read, done, haudio⟩ := playsAudio_deliver env now source' vp hm'
  obtain ⟨tail, hlog', htail, _, _, _, _, _, _, heq⟩ := deliver_spec env now source' vp u
  obtain rfl : l = marks ++ .sending vp :: tail := by
    rw [hlog', hulog, h.log, List.append_assoc] at hlog
    exact (List.append_cancel_left hlog).symm
  obtain ⟨m, m', hm₁, hm₂, hreads''⟩ := haudio.source
  obtain rfl := Option.some.inj (hm'.symm.trans hm₁)
  have hlast := hall.trans hreads''
  rw [List.append_nil] at hlast
  refine ⟨?_, fun _ => ?_, m', _, _, hm₂, hlast, .send hplay ?_ ?_ ?_ ?_⟩
  · rw [heq]
    exact hnpt
  · rw [heq]
    exact hready
  · rw [sentFrames_append, hmarks]
    exact sentFrames_sending vp htail
  · rw [heq]
    exact hff
  · rw [heq]
    exact hgate
  · rw [heq]
    rfl

/-- The pacing part of a tick. -/
theorem inRange_ticks {m₀ : M} {stop : Rat} {pass l : List Event} {env : Env M} {now : Int}
    {s s' : Session M} (hI : InRange m₀ stop pass s) (h : Ticks env now s s')
    (hlog : s'.log = s.log ++ l) (hin : InPass l) : InRange m₀ stop (pass ++ l) s' := by
  cases h with
  | idle hs =>
      have hsame : (s.notStreaming now).log = s.log := by
        obtain ⟨pause, heq⟩ := notStreaming_eq now s
        rw [heq]
      obtain rfl := List.self_eq_append_right.mp (hsame.symm.trans hlog)
      rw [List.append_nil]
      exact inRange_idle now hI hs
  | passes hs hsource hp => exact inRange_passes hI hs hsource hp hlog hin
  | @waits _ _ vp t hs hsource hh hfirst =>
      have hl : l = [.timed vp (t.mediaTicks vp)] := by
        change t.log ++ _ = _ at hlog
        rw [hh.log] at hlog
        exact (List.append_cancel_left hlog).symm
      rw [hl]
      exact inRange_waits _ hI hs hsource hh hfirst
  | @starts _ source' vp t hs hsource hh hfirst =>
      exact inRange_sends env [.anchored vp now, .timed vp 0] hI hs hsource hh rfl
        (List.append_assoc ..) rfl hlog
  | @sends _ source' vp t hs hsource hh hfirst =>
      refine inRange_sends env [.timed vp (t.mediaTicks vp)] hI hs hsource hh rfl rfl ?_ hlog
      have hff := (hh.facts hsource).2.2.2.trans hfirst
      rw [← hff]
      rfl

/-! ## Runs -/

omit [IMediaSource M] in
/-- A request that leaves the pacing alone. -/
theorem Selected.aside {stop : Rat} {vs : List VideoPacket} {pass l : List Event}
    {s s' : Session M} (hv : Selected stop vs pass s) (h : Aside s s')
    (hactive : s'.Active → s.Active) (hlog : s'.log = s.log ++ l) :
    Selected stop vs (pass ++ l) s' := by
  obtain ⟨hstream, tail, hlog', htail⟩ := h
  obtain rfl := List.append_cancel_left (hlog.symm.trans hlog')
  have hgate : s'.resumeWaitingForIdr = s.resumeWaitingForIdr :=
    congrArg Stream.resumeWaitingForIdr hstream
  exact hv.of_same (nothingSent_of_exchange htail).1 rfl (congrArg Stream.firstFrame hstream)
    (fun hopen => hgate.trans hopen) (.inl (congrArg Stream.pendingVp hstream)) hactive

theorem inRange_step {m₀ : M} {stop : Rat} {pass l : List Event} {t t' : Handled M}
    {a : SessionAct M} (hI : InRange m₀ stop pass (sessionOf t)) (h : sessionStep t a = some t')
    (hlog : (sessionOf t').log = (sessionOf t).log ++ l) (hin : InPass l) :
    InRange m₀ stop (pass ++ l) (sessionOf t') := by
  have hup := transportUp_step hI.up h
  obtain ⟨m, vs, aps, hm, hreads, hv⟩ := hI.frames
  cases t with
  | error s => cases h
  | ok s =>
      cases a with
      | command req =>
          obtain rfl := Option.some.inj h
          obtain rfl := List.self_eq_append_right.mp hlog
          exact ⟨hI.nptEnd, hup, m, vs, aps, hm, hreads, hv.of_same rfl rfl rfl id (.inl rfl) id⟩
      | handle env =>
          obtain ⟨req, rest, -, rfl⟩ := handle_cases h
          obtain ⟨l', hl'⟩ := handleNext_log env req rest s
          obtain rfl := List.append_cancel_left (hlog.symm.trans hl')
          have hdescribe : req.method ≠ ascii "DESCRIBE" :=
            of_decide_eq_false (hin (.request req) List.mem_cons_self)
          have htaken : Selected stop vs (pass ++ [.request req])
              ({ s with cmdQueue := rest }.emit (.request req)) :=
            hv.of_same rfl rfl rfl id (.inl rfl) id
          obtain ⟨hserves, hlog'⟩ := handleNext_serves env rest hdescribe hl'
          rcases hserves.sought_or hlog' with ⟨ha, hactive⟩ | ⟨hnone, -⟩ | ⟨hsought, -⟩
          · have hsame := htaken.aside ha hactive hlog'
            rw [List.append_assoc] at hsame
            have hstream := ha.1
            exact ⟨(congrArg Stream.nptEnd hstream).trans hI.nptEnd, hup, m, vs, aps,
              (congrArg Stream.source hstream).trans hm, hreads, hsame⟩
          · -- a pass has a source
            have hno : none = some m := hnone.symm.trans hm
            cases hno
          · exact Bool.noConfusion (hin .sought (List.mem_cons_of_mem _ hsought))
      | pace env now =>
          obtain rfl := Option.some.inj h
          exact inRange_ticks hI (ticks_pace env now s) hlog hin

/-- A pass starts with nothing read, held or sent. -/
theorem InRange.start {s : Session M} (h : s.Restarted) (hup : s.TransportUp) :
    ∃ m, s.mediaSource = some m ∧ InRange m s.nptEnd [] s := by
  obtain ⟨hff, hvp, -, m, hm⟩ := h
  refine ⟨m, hm, rfl, hup, m, [], [], hm, .refl m, fun _ => ⟨hvp, rfl⟩, fun hno => ?_,
    List.prefix_rfl, fun _ => by rw [hvp]; rfl⟩
  rw [hff] at hno
  cases hno

/-- **A Range is respected.** For every source and every run from a new session: after a step that
    seeks, up to the next seek or DESCRIBE, whatever pauses and resumes there are, the video frames
    that are sent are a prefix of those that `readPacket` has returned since and that lie in front
    of the end of the range, from the first such key frame on. No frame at or behind the end is
    sent. -/
theorem range_respected (clientIp mediaRoot sessionId : Bytes) (ssrc audioSsrc : UInt32)
    (before as : List (SessionAct M)) (s : Session M) (a : SessionAct M) (t₀ t : Handled M)
    (seek pass : List Event)
    (hbefore : Lts.run sessionStep (.ok (Session.new clientIp mediaRoot sessionId ssrc audioSsrc))
      before = some (.ok s))
    (hseek : sessionStep (.ok s) a = some t₀) (hlog : (sessionOf t₀).log = s.log ++ seek)
    (hsought : .sought ∈ seek) (hrun : Lts.run sessionStep t₀ as = some t)
    (hlog' : (sessionOf t).log = (sessionOf t₀).log ++ pass) (hin : InPass pass) :
    ∃ m₀ m vs aps, (sessionOf t₀).mediaSource = some m₀ ∧ (sessionOf t).mediaSource = some m ∧
      Reads m₀ vs aps m ∧ sentFrames pass <+: inRange (sessionOf t₀).nptEnd vs ∧
      ∀ vp ∈ sentFrames pass, behind (sessionOf t₀).nptEnd vp = false := by
  have hup : (sessionOf t₀).TransportUp := transportUp_of_run (Lts.run_snoc hbefore hseek)
  obtain ⟨m₀, hm₀, hstart⟩ := InRange.start (restarted_of_sought hseek hlog hsought) hup
  have hI : InRange m₀ (sessionOf t₀).nptEnd pass (sessionOf t) :=
    Lts.run_events (fun u : Handled M => (sessionOf u).log)
      (I := fun l u => InRange m₀ (sessionOf t₀).nptEnd l (sessionOf u))
      (fun _ _ _ => log_step) (fun _ _ _ _ _ hI h hlog hl => inRange_step hI h hlog hl) hstart hrun
      hlog' hin
  obtain ⟨m, vs, aps, hm, hreads, hv⟩ := hI.frames
  exact ⟨m₀, m, vs, aps, hm₀, hm, hreads, hv.sent,
    fun vp hvp => behind_of_mem (hv.sent.subset hvp)⟩

/-- A machine that reads the times of the request below. -/
def rangeMachine : Env (MediaSource PacketList Unit) :=
  { machine inOrder with
    stod := fun text =>
      if text = ascii "0" then some 0 else if text = ascii "0.02" then some (1 / 50) else none }

/-- PLAY of the first 20 ms. -/
def rangeRequest : RTSPRequest :=
  { method := ascii "PLAY", url := ascii "rtsp://h/a.mp4", version := ascii "RTSP/1.0"
    headers := ((∅ : HeaderMap).insert (ascii "cseq") (ascii "4")).insert (ascii "range")
      (ascii "npt=0-0.02")
    body := [] }

def untilRange : List (SessionAct (MediaSource PacketList Unit)) :=
  [.command (describeRequest "rtsp://h/a.mp4"), .handle rangeMachine,
    .command (setupRequest "RTP/AVP/TCP;unicast;interleaved=0-1"), .handle rangeMachine,
    .command rangeRequest]

/-- The key frame is sent, and the frame behind it, of 40 ms, ends the range. -/
def stopsAtEnd : Bool :=
  match Lts.run sessionStep (.ok client) untilRange with
  | some (.ok s) =>
      match sessionStep (.ok s) (.handle rangeMachine) with
      | none => false
      | some t₀ =>
          match Lts.run sessionStep t₀ [.pace rangeMachine 1, .pace rangeMachine 1] with
          | none => false
          | some t =>
              let seek := (sessionOf t₀).log.drop s.log.length
              let pass := (sessionOf t).log.drop (sessionOf t₀).log.length
              decide ((sessionOf t₀).log = s.log ++ seek ∧ .sought ∈ seek ∧
                (sessionOf t).log = (sessionOf t₀).log ++ pass ∧
                (∀ e ∈ pass, e.endsPass = false) ∧ (sessionOf t₀).nptEnd = 1 / 50 ∧
                sentFrames pass ≠ [] ∧ (sessionOf t).state = .paused)
  | _ => false

theorem range_respected_stops : ∃ s t₀ t pass m₀ m vs aps,
    Lts.run sessionStep (.ok client) untilRange = some (.ok s) ∧
      sessionStep (.ok s) (.handle rangeMachine) = some t₀ ∧
      Lts.run sessionStep t₀ [.pace rangeMachine 1, .pace rangeMachine 1] = some t ∧
      (sessionOf t).log = (sessionOf t₀).log ++ pass ∧ (sessionOf t).state = .paused ∧
      (sessionOf t).mediaSource = some m ∧ Reads m₀ vs aps m ∧ sentFrames pass ≠ [] ∧
      sentFrames pass <+: inRange (1 / 50) vs := by
  have h : stopsAtEnd = true := by decide +kernel
  unfold stopsAtEnd at h
  split at h
  · next s hs =>
      split at h
      · cases h
      · next t₀ hseek =>
          split at h
          · cases h
          · next t hrun =>
              obtain ⟨hlog, hsought, hlog', hin, hnpt, hsent, hstate⟩ := of_decide_eq_true h
              obtain ⟨m₀, m, vs, aps, -, hm, hreads, hprefix, -⟩ := range_respected _ _ _ _ _ _ _ s
                _ t₀ t _ _ hs hseek hlog hsought hrun hlog' hin
              rw [hnpt] at hprefix
              exact ⟨s, t₀, t, _, m₀, m, vs, aps, hs, hseek, hrun, hlog', hstate, hm, hreads, hsent,
                hprefix⟩
  · cases h

end RtspServer
