/-
  RTP time over the end of the source. The offset of the next pass is `last_video_rtp_` and
  `last_frame_dur_`: the timestamp of the last frame sent, and the distance of two frames that
  followed each other. A file of one frame teaches no distance, nor does a file of two frames
  whose first timestamp is 0; and the last frame in the order of the file may not be the last
  one in time. Then the next pass uses timestamps again.

  The log splits at its `.sought` events into passes. `Looping` is the invariant: the passes
  ascend, and what was sent in passes that ended is behind the clock of the source. `early` says
  how far a frame of the file comes before its first one in time, as a number that is not
  positive.
-/
import RtspServer.Server.RtpTime

namespace RtspServer

open ByteString Session IMediaSource

/-! ## Passes -/

/-- The frame was sent in a pass that has ended. -/
def SentEarlier (l : List Event) (e : VideoPacket) : Prop :=
  ∃ l₁ l₂, l = l₁ ++ .sought :: l₂ ∧ e ∈ sentFrames l₁

/-- The frames of later passes have greater timestamps than those of earlier ones. -/
def LoopsForward (l : List Event) : Prop :=
  ∀ l₁ l₂, l = l₁ ++ .sought :: l₂ → ∀ e ∈ sentFrames l₁, ∀ f ∈ sentFrames l₂,
    e.rtpTimestamp < f.rtpTimestamp

/-- The events of the pass at the end of the log. -/
def lastPass (l : List Event) : List Event :=
  (l.reverse.takeWhile fun e => decide (e ≠ .sought)).reverse

theorem lastPass_append {l l' : List Event} (h : .sought ∉ l') :
    lastPass (l ++ l') = lastPass l ++ l' := by
  unfold lastPass
  rw [List.reverse_append, List.takeWhile_append_of_pos, List.reverse_append, List.reverse_reverse]
  intro e he
  rw [decide_eq_true_eq]
  rintro rfl
  exact h (List.mem_reverse.mp he)

theorem lastPass_sought (l : List Event) : lastPass (l ++ [.sought]) = [] := by
  unfold lastPass
  rw [List.reverse_append]
  rfl

/-- The last pass is the whole log, or it begins at a seek. -/
theorem lastPass_cases (l : List Event) :
    .sought ∉ lastPass l ∧ (lastPass l = l ∨ ∃ l₁, l = l₁ ++ .sought :: lastPass l) := by
  induction l using List.reverseRecOn with
  | nil => exact ⟨List.not_mem_nil, .inl rfl⟩
  | append_singleton l e ih =>
      by_cases he : e = .sought
      · rw [he, lastPass_sought]
        exact ⟨List.not_mem_nil, .inr ⟨l, rfl⟩⟩
      · have hno : .sought ∉ [e] := fun hmem => he (List.mem_singleton.mp hmem).symm
        rw [lastPass_append hno]
        obtain ⟨hfree, hcases⟩ := ih
        refine ⟨fun hmem => (List.mem_append.mp hmem).elim hfree hno, ?_⟩
        rcases hcases with hall | ⟨l₁, hl⟩
        · exact .inl (by rw [hall])
        · refine .inr ⟨l₁, ?_⟩
          rw [← List.cons_append, ← List.append_assoc, ← hl]

/-- A seek splits the log before or behind a part without seeks. -/
theorem split_append {l l' l₁ l₂ : List Event} (h : .sought ∉ l')
    (heq : l ++ l' = l₁ ++ .sought :: l₂) : ∃ k, l = l₁ ++ .sought :: k ∧ l₂ = k ++ l' := by
  rcases List.append_eq_append_iff.mp heq with ⟨k, hk, hrest⟩ | ⟨k, hk, hrest⟩
  · exact absurd (by rw [hrest]; simp) h
  · cases k with
    | nil =>
        rw [List.nil_append] at hrest
        exact absurd (by rw [← hrest]; simp) h
    | cons e k =>
        obtain ⟨rfl, rfl⟩ := List.cons.inj hrest
        exact ⟨k, hk, rfl⟩

/-- It splits the log at its end or before. -/
theorem split_sought {l l₁ l₂ : List Event} (heq : l ++ [.sought] = l₁ ++ .sought :: l₂) :
    (l₁ = l ∧ l₂ = []) ∨ ∃ k, l = l₁ ++ .sought :: k ∧ l₂ = k ++ [.sought] := by
  rcases List.append_eq_append_iff.mp heq with ⟨k, hk, hrest⟩ | ⟨k, hk, hrest⟩
  · cases k with
    | nil => exact .inl ⟨by rw [hk, List.append_nil], (List.cons.inj hrest).2.symm⟩
    | cons e k =>
        have hlength := congrArg List.length hrest
        simp at hlength
  · cases k with
    | nil => exact .inl ⟨by rw [hk, List.append_nil], (List.cons.inj hrest).2⟩
    | cons e k =>
        obtain ⟨rfl, hl₂⟩ := List.cons.inj hrest
        exact .inr ⟨k, hk, hl₂⟩

theorem SentEarlier.sought {l : List Event} {e : VideoPacket} (h : SentEarlier l e) :
    .sought ∈ l := by
  obtain ⟨l₁, l₂, rfl, -⟩ := h
  exact List.mem_append_right _ List.mem_cons_self

theorem sentEarlier_append {l l' : List Event} {e : VideoPacket} (h : .sought ∉ l')
    (he : SentEarlier (l ++ l') e) : SentEarlier l e := by
  obtain ⟨l₁, l₂, heq, he⟩ := he
  obtain ⟨k, hk, -⟩ := split_append h heq
  exact ⟨l₁, k, hk, he⟩

theorem sentEarlier_or_lastPass {l : List Event} {e : VideoPacket} (h : e ∈ sentFrames l) :
    SentEarlier l e ∨ e ∈ sentFrames (lastPass l) := by
  obtain ⟨-, hall | ⟨l₁, hl⟩⟩ := lastPass_cases l
  · rw [hall]
    exact .inr h
  · rw [hl, sentFrames_append] at h
    rcases List.mem_append.mp h with h | h
    · exact .inl ⟨l₁, lastPass l, hl, h⟩
    · exact .inr h

/-- The frames of the last pass come after all earlier ones. -/
theorem LoopsForward.lastPass {l : List Event} {e f : VideoPacket} (h : LoopsForward l)
    (he : SentEarlier l e) (hf : f ∈ sentFrames (lastPass l)) : e.rtpTimestamp < f.rtpTimestamp := by
  obtain ⟨l₁, l₂, heq, he⟩ := he
  obtain ⟨hfree, hall | ⟨k, hl⟩⟩ := lastPass_cases l
  · rw [hall, heq] at hfree
    exact absurd (by simp) hfree
  · have hsplit : (k ++ [.sought]) ++ RtspServer.lastPass l = l₁ ++ .sought :: l₂ := by
      rw [List.append_assoc, ← heq]
      exact hl.symm
    obtain ⟨j, -, hl₂⟩ := split_append hfree hsplit
    refine h l₁ l₂ heq e he f ?_
    rw [hl₂, sentFrames_append]
    exact List.mem_append_right _ hf

/-- More events of the last pass. -/
theorem LoopsForward.append {l l' : List Event} (h : LoopsForward l) (hfree : .sought ∉ l')
    (hnew : ∀ e, SentEarlier l e → ∀ f ∈ sentFrames l', e.rtpTimestamp < f.rtpTimestamp) :
    LoopsForward (l ++ l') := by
  intro l₁ l₂ heq e he f hf
  obtain ⟨k, hl, rfl⟩ := split_append hfree heq
  rw [sentFrames_append] at hf
  rcases List.mem_append.mp hf with hf | hf
  · exact h l₁ k hl e he f hf
  · exact hnew e ⟨l₁, k, hl, he⟩ f hf

/-- A new pass. -/
theorem LoopsForward.sought {l : List Event} (h : LoopsForward l) :
    LoopsForward (l ++ [.sought]) := by
  intro l₁ l₂ heq e he f hf
  rcases split_sought heq with ⟨-, rfl⟩ | ⟨k, hk, rfl⟩
  · cases hf
  · rw [sentFrames_append] at hf
    rcases List.mem_append.mp hf with hf | hf
    · exact h l₁ k hk e he f hf
    · cases hf

theorem sentEarlier_sought {l : List Event} {e : VideoPacket}
    (h : SentEarlier (l ++ [.sought]) e) : e ∈ sentFrames l := by
  obtain ⟨l₁, l₂, heq, he⟩ := h
  rcases split_sought heq with ⟨rfl, -⟩ | ⟨k, rfl, -⟩
  · exact he
  · rw [sentFrames_append]
    exact List.mem_append_left _ he

/-! ## The condition and the invariant -/

variable {D B : Type}

/-- The events since the log had the length `base`. -/
def eventsSince (base : Nat) (s : Session (MediaSource D B)) : List Event := s.log.drop base

theorem eventsSince_of_log {base : Nat} {s s' : Session (MediaSource D B)} {l : List Event}
    (hbase : base ≤ s.log.length) (hlog : s'.log = s.log ++ l) :
    eventsSince base s' = eventsSince base s ++ l := by
  unfold eventsSince
  rw [hlog, List.drop_append_of_le_length hbase]

/-- What a tick reads. In a later pass the first packet is a key frame with NAL units, no frame
    comes more than `-early` before it, and no timestamp wraps. At the end of the source the next
    offset is so far behind each timestamp of the pass that even the earliest frame is. -/
def NextInLoop (base : Nat) (early : Int) (s : Session (MediaSource D B)) :
    Option VideoPacket × MediaSource D B → Prop
  | (some vp, source) => .sought ∈ eventsSince base s →
      (s.firstFrame = true → vp.isKeyFrame = true ∧ vp.nals ≠ []) ∧ early ≤ source.tick vp ∧
        0 ≤ (source.rtpOffset.toNat : Int) + source.tick vp ∧
        (source.rtpOffset.toNat : Int) + source.tick vp < 2 ^ 32
  | (none, _) => (.sought ∈ eventsSince base s → s.firstFrame = false) ∧
      s.lastVideoRtp.toNat + (s.lastFrameDur.getD 0).toNat < 2 ^ 32 ∧
      ∀ vp ∈ sentFrames (lastPass (eventsSince base s)), (vp.rtpTimestamp.toNat : Int) <
        s.lastVideoRtp.toNat + (s.lastFrameDur.getD 0).toNat + early

variable [FFmpeg D B]

/-- The condition on a step of a run that only plays. -/
def LoopsOn (base : Nat) (early : Int) :
    Handled (MediaSource D B) → SessionAct (MediaSource D B) → Prop
  | .ok s, .pace _ _ => s.Streaming → s.firstFrame = true ∨ s.pendingVp = none →
      ∀ source ∈ s.mediaSource, NextInLoop base early s (readPacket source)
  | _, .pace _ _ => True
  | _, _ => False

/-- The invariant of such a run. -/
structure Looping (base : Nat) (early : Int) (s : Session (MediaSource D B)) : Prop where
  len : base ≤ s.log.length
  forward : LoopsForward (eventsSince base s)
  first : s.mediaSource.isSome = true → s.firstFrame = false →
    sentFrames (lastPass (eventsSince base s)) ≠ []
  ahead : .sought ∈ eventsSince base s → ∀ source, s.mediaSource = some source →
    source.prefetchVp = none ∧ ∀ e, SentEarlier (eventsSince base s) e →
      (e.rtpTimestamp.toNat : Int) < source.rtpOffset.toNat + early ∧
        ∀ vp, s.firstFrame = false → s.pendingVp = some vp → e.rtpTimestamp < vp.rtpTimestamp

omit [FFmpeg D B] in
/-- A step that sends nothing and does not seek. -/
theorem Looping.quiet {base : Nat} {early : Int} {s s' : Session (MediaSource D B)}
    {l : List Event} (h : Looping base early s) (hlog : s'.log = s.log ++ l)
    (hsent : sentFrames l = []) (hsought : .sought ∉ l) (hfirst : s'.firstFrame = s.firstFrame)
    (hsome : s'.mediaSource.isSome = true → s.mediaSource.isSome = true)
    (hahead : .sought ∈ eventsSince base s → ∀ source, s'.mediaSource = some source →
      source.prefetchVp = none ∧ ∀ e, SentEarlier (eventsSince base s) e →
        (e.rtpTimestamp.toNat : Int) < source.rtpOffset.toNat + early ∧
          ∀ vp, s'.firstFrame = false → s'.pendingVp = some vp →
            e.rtpTimestamp < vp.rtpTimestamp) : Looping base early s' := by
  have hevents := eventsSince_of_log h.len hlog
  refine ⟨?_, ?_, fun hs hff => ?_, fun hin source hs => ?_⟩
  · rw [hlog, List.length_append]
    exact Nat.le_add_right_of_le h.len
  · rw [hevents]
    refine h.forward.append hsought fun e _ f hf => ?_
    rw [hsent] at hf
    cases hf
  · rw [hevents, lastPass_append hsought, sentFrames_append, hsent, List.append_nil]
    exact h.first (hsome hs) (hfirst.symm.trans hff)
  · rw [hevents] at hin
    obtain ⟨hpre, hbehind⟩ := hahead ((List.mem_append.mp hin).resolve_right hsought) source hs
    refine ⟨hpre, fun e he => hbehind e ?_⟩
    rw [hevents] at he
    exact sentEarlier_append hsought he

/-- A frame that is read in a later pass comes after all earlier ones. -/
theorem Looping.read {base : Nat} {early : Int} {s : Session (MediaSource D B)}
    {source source' : MediaSource D B} {vp : VideoPacket} (h : Looping base early s)
    (hin : .sought ∈ eventsSince base s) (hsource : s.mediaSource = some source)
    (hread : readPacket source = (some vp, source'))
    (hnext : NextInLoop base early s (some vp, source')) :
    source'.prefetchVp = none ∧ ∀ e, SentEarlier (eventsSince base s) e →
      (e.rtpTimestamp.toNat : Int) < source'.rtpOffset.toNat + early ∧
        e.rtpTimestamp < vp.rtpTimestamp := by
  obtain ⟨hpre, hbehind⟩ := h.ahead hin source hsource
  obtain ⟨hkeeps, hprocessed⟩ := MediaSource.readPacket_some hread hpre
  obtain ⟨-, hearly, hle, hlt⟩ := hnext hin
  have hts := rtpTimestamp_toNat hprocessed hle hlt
  refine ⟨hkeeps.prefetchVp.trans hpre, fun e he => ?_⟩
  have hoffset := (hbehind e he).1
  rw [← hkeeps.rtpOffset] at hoffset
  refine ⟨hoffset, ?_⟩
  rw [UInt32.lt_iff_toNat_lt]
  omega

/-- The end of the source. -/
theorem Looping.loops {base : Nat} {early : Int} {s s' : Session (MediaSource D B)}
    {source source' : MediaSource D B} {wall pause : Int} (h : Looping base early s)
    (hlog : s'.log = s.log ++ [.sought]) (hsource : s.mediaSource = some source)
    (hread : readPacket source = (none, source'))
    (hnext : NextInLoop base early s (none, source'))
    (heq : s' = { s with
      wallStart := wall, pauseStart := pause, pendingVp := none }.loopSource source') :
    Looping base early s' := by
  obtain ⟨hsent, hwrap, hahead⟩ := hnext
  have hevents := eventsSince_of_log h.len hlog
  have hbehind : ∀ e ∈ sentFrames (eventsSince base s), (e.rtpTimestamp.toNat : Int) <
      s.lastVideoRtp.toNat + (s.lastFrameDur.getD 0).toNat + early := by
    intro e he
    rcases sentEarlier_or_lastPass he with he | he
    · -- a frame of this pass is in between
      have hsome : s.mediaSource.isSome = true := by
        rw [hsource]
        rfl
      obtain ⟨f, hf⟩ := List.exists_mem_of_ne_nil _ (h.first hsome (hsent he.sought))
      have hlt := h.forward.lastPass he hf
      have hnear := hahead f hf
      rw [UInt32.lt_iff_toNat_lt] at hlt
      omega
    · exact hahead e he
  refine ⟨?_, ?_, fun _ hff => ?_, fun _ m hm => ?_⟩
  · rw [hlog, List.length_append]
    exact Nat.le_add_right_of_le h.len
  · rw [hevents]
    exact h.forward.sought
  · rw [heq] at hff
    cases hff
  · rw [heq] at hm
    obtain rfl := Option.some.inj hm
    have hnone : source'.prefetchVp = none := MediaSource.readPacket_none hread
    refine ⟨hnone, fun e he => ⟨?_, fun vp hff => ?_⟩⟩
    · rw [hevents] at he
      have hlt := hbehind e (sentEarlier_sought he)
      change (e.rtpTimestamp.toNat : Int) <
        (s.lastVideoRtp + s.lastFrameDur.getD 0).toNat + early
      rw [UInt32.toNat_add, Nat.mod_eq_of_lt hwrap]
      omega
    · rw [heq] at hff
      cases hff

theorem looping_moves {base : Nat} {early : Int} {s s' : Session (MediaSource D B)}
    {l : List Event} (h : Looping base early s) (hm : Moves s l s') (hlog : s'.log = s.log ++ l)
    (hnext : s.Streaming → s.firstFrame = true ∨ s.pendingVp = none →
      ∀ source ∈ s.mediaSource, NextInLoop base early s (readPacket source)) :
    Looping base early s' := by
  cases hm with
  | rests hsent hsought hsource hfirst _ hheld =>
      refine h.quiet hlog hsent hsought hfirst (fun hs => hsource ▸ hs) fun hin source hs => ?_
      obtain ⟨hpre, hbehind⟩ := h.ahead hin source (hsource ▸ hs)
      refine ⟨hpre, fun e he => ⟨(hbehind e he).1, fun vp hff hvp => ?_⟩⟩
      refine (hbehind e he).2 vp (hfirst ▸ hff) ?_
      rcases hheld with hheld | hheld
      · rw [hheld] at hvp
        cases hvp
      · exact hheld.symm.trans hvp
  | reads source source' vp hs hsource hnone hread hsent hsought hsource' hfirst _ hheld =>
      have hreads := hnext hs hnone source hsource
      rw [hread] at hreads
      refine h.quiet hlog hsent hsought hfirst (fun _ => by rw [hsource]; rfl) fun hin m hm => ?_
      obtain rfl := Option.some.inj (hsource'.symm.trans hm)
      obtain ⟨hpre, hbehind⟩ := h.read hin hsource hread hreads
      refine ⟨hpre, fun e he => ⟨(hbehind e he).1, fun vp' _ hvp => ?_⟩⟩
      rcases hheld with hheld | hheld
      · rw [hheld] at hvp
        cases hvp
      · obtain rfl := Option.some.inj (hheld.symm.trans hvp)
        exact (hbehind e he).2
  | loops source source' wall pause hs hsource hnone hread hl heq =>
      have hreads := hnext hs hnone source hsource
      rw [hread] at hreads
      rw [hl] at hlog
      exact h.loops hlog hsource hread hreads heq
  | sends source source' vp n hs hsource hnext' hsent hsought hsource' hfirst _ hheld =>
      have hbehind : .sought ∈ eventsSince base s → source'.prefetchVp = none ∧
          ∀ e, SentEarlier (eventsSince base s) e →
            (e.rtpTimestamp.toNat : Int) < source'.rtpOffset.toNat + early ∧
              e.rtpTimestamp < vp.rtpTimestamp := by
        intro hin
        rcases hnext' with ⟨hff, hvp, rfl⟩ | ⟨hnone, hread, -⟩
        · obtain ⟨hpre, hbehind⟩ := h.ahead hin source' hsource
          exact ⟨hpre, fun e he => ⟨(hbehind e he).1, (hbehind e he).2 vp hff hvp⟩⟩
        · have hreads := hnext hs hnone source hsource
          rw [hread] at hreads
          exact h.read hin hsource hread hreads
      have hevents := eventsSince_of_log h.len hlog
      have hkeeps := readAudio_keeps n source'
      refine ⟨?_, ?_, fun _ _ => ?_, fun hin m hm => ?_⟩
      · rw [hlog, List.length_append]
        exact Nat.le_add_right_of_le h.len
      · rw [hevents]
        refine h.forward.append hsought fun e he f hf => ?_
        rw [hsent] at hf
        rw [List.mem_singleton.mp hf]
        exact ((hbehind he.sought).2 e he).2
      · rw [hevents, lastPass_append hsought, sentFrames_append, hsent]
        simp
      · rw [hevents] at hin
        obtain ⟨hpre, hlater⟩ := hbehind ((List.mem_append.mp hin).resolve_right hsought)
        obtain rfl := Option.some.inj (hsource'.symm.trans hm)
        refine ⟨hkeeps.prefetchVp.trans hpre, fun e he => ?_⟩
        rw [hevents] at he
        rw [hkeeps.rtpOffset]
        refine ⟨(hlater e (sentEarlier_append hsought he)).1, fun vp' _ hvp => ?_⟩
        rw [hheld] at hvp
        cases hvp

theorem looping_step {base : Nat} {early : Int} {t t' : Handled (MediaSource D B)}
    {a : SessionAct (MediaSource D B)} (hI : Looping base early (sessionOf t))
    (hon : LoopsOn base early t a) (h : sessionStep t a = some t') :
    Looping base early (sessionOf t') := by
  cases t with
  | error s => cases h
  | ok s =>
      cases a with
      | command req => exact hon.elim
      | handle env => exact hon.elim
      | pace env now =>
          obtain rfl := Option.some.inj h
          obtain ⟨l, hlog⟩ := (ticks_pace env now s).log
          exact looping_moves hI (moves_of_ticks (ticks_pace env now s) hlog) hlog hon

/-- A fresh PLAY. -/
theorem looping_freshPlay {req : RTSPRequest} {s s' : Session (MediaSource D B)} (early : Int)
    (hfresh : PlaysAfresh req s) (h : Serves req s s') : Looping s'.log.length early s' := by
  obtain ⟨hm, hinit, hpaused, -⟩ := hfresh
  have hempty : eventsSince s'.log.length s' = [] := List.drop_length
  refine ⟨le_refl _, ?_, fun hsome hff => ?_, fun hin => ?_⟩
  · intro l₁ l₂ heq
    rw [hempty] at heq
    simp at heq
  · rcases awaitsKey_serves h (.inr ⟨hm, hinit, hpaused⟩) with hnone | ⟨hyes, -⟩
    · rw [hnone] at hsome
      cases hsome
    · rw [hyes] at hff
      cases hff
  · rw [hempty] at hin
    cases hin

/-- **Looping does not use RTP time again** as long as each pass leaves room. For every source
    and every run of ticks after a fresh PLAY: where at each end of the source `last_video_rtp_`
    and `last_frame_dur_` together are more than `-early` behind every timestamp of the pass, the
    frames of later passes have greater timestamps than those of earlier ones. -/
theorem loops_forward (s : Session (MediaSource D B)) (env : Env (MediaSource D B))
    (fresh : RTSPRequest) (t₀ t : Handled (MediaSource D B))
    (as : List (SessionAct (MediaSource D B))) (early : Int)
    (hfresh : s.cmdQueue.head? = some fresh) (hplays : PlaysAfresh fresh s)
    (hstart : sessionStep (.ok s) (.handle env) = some t₀)
    (hrun : Lts.run sessionStep t₀ as = some t)
    (hon : Lts.Along sessionStep (LoopsOn (sessionOf t₀).log.length early) t₀ as) :
    LoopsForward (eventsSince (sessionOf t₀).log.length (sessionOf t)) := by
  have hstarts : Looping (sessionOf t₀).log.length early (sessionOf t₀) := by
    obtain ⟨s', hplays', hserves⟩ := serves_fresh hfresh hplays hstart
    exact looping_freshPlay early hplays' hserves
  exact (Lts.run_invariant (I := fun t => Looping (sessionOf t₀).log.length early (sessionOf t))
    (fun _ _ _ hI hC h => looping_step hI hC h) hstarts hon hrun).forward

instance decidableNextInLoop (base : Nat) (early : Int) (s : Session (MediaSource D B)) :
    ∀ r, Decidable (NextInLoop base early s r)
  | (some vp, source) => inferInstanceAs (Decidable (.sought ∈ eventsSince base s →
      (s.firstFrame = true → vp.isKeyFrame = true ∧ vp.nals ≠ []) ∧ early ≤ source.tick vp ∧
        0 ≤ (source.rtpOffset.toNat : Int) + source.tick vp ∧
        (source.rtpOffset.toNat : Int) + source.tick vp < 2 ^ 32))
  | (none, _) => inferInstanceAs (Decidable ((.sought ∈ eventsSince base s → s.firstFrame = false) ∧
      s.lastVideoRtp.toNat + (s.lastFrameDur.getD 0).toNat < 2 ^ 32 ∧
      ∀ vp ∈ sentFrames (lastPass (eventsSince base s)), (vp.rtpTimestamp.toNat : Int) <
        s.lastVideoRtp.toNat + (s.lastFrameDur.getD 0).toNat + early))

instance decidableLoopsOn (base : Nat) (early : Int) :
    ∀ (t : Handled (MediaSource D B)) (a : SessionAct (MediaSource D B)),
      Decidable (LoopsOn base early t a)
  | .ok s, .pace _ _ => inferInstanceAs (Decidable (s.Streaming → _))
  | .error _, .pace _ _ => isTrue trivial
  | .ok _, .command _ => isFalse id
  | .ok _, .handle _ => isFalse id
  | .error _, .command _ => isFalse id
  | .error _, .handle _ => isFalse id

/-- A fresh PLAY of a file and ticks at `nows`: the session before the PLAY, after it, and at the
    end. -/
def loopRun (ps : List AVPacket) (nows : List Int) :
    Option (Session (MediaSource PacketList Unit) × Handled (MediaSource PacketList Unit) ×
      Handled (MediaSource PacketList Unit)) :=
  match Lts.run sessionStep (.ok client) (untilPlay ps) with
  | some (.ok s) =>
      match sessionStep (.ok s) (.handle (machine ps)) with
      | none => none
      | some t₀ => (Lts.run sessionStep t₀ (ticksAt ps nows)).map (s, t₀, ·)
  | _ => none

theorem loopRun_spec {ps : List AVPacket} {nows : List Int}
    {s : Session (MediaSource PacketList Unit)} {t₀ t : Handled (MediaSource PacketList Unit)}
    (h : loopRun ps nows = some (s, t₀, t)) :
    Lts.run sessionStep (.ok client) (untilPlay ps) = some (.ok s) ∧
      sessionStep (.ok s) (.handle (machine ps)) = some t₀ ∧
      Lts.run sessionStep t₀ (ticksAt ps nows) = some t := by
  unfold loopRun at h
  split at h
  · next s' hs =>
      split at h
      · cases h
      · next t₀' ht₀ =>
          obtain ⟨t', ht, heq⟩ := Option.map_eq_some_iff.mp h
          simp only [Prod.mk.injEq] at heq
          obtain ⟨rfl, rfl, rfl⟩ := heq
          exact ⟨hs, ht₀, ht⟩
  · cases h

/-- The timestamps sent after the PLAY. -/
def stampsSince (t₀ t : Handled (MediaSource PacketList Unit)) : List UInt32 :=
  (sentFrames (eventsSince (sessionOf t₀).log.length (sessionOf t))).map
    fun vp => vp.rtpTimestamp

/-- Nothing is learned from two frames the first of which is at 0: the second pass begins with the
    timestamp the first one ended with. -/
theorem inOrder_loops_not_forward : ∃ s t₀ t,
    Lts.run sessionStep (.ok client) (untilPlay inOrder) = some (.ok s) ∧
      sessionStep (.ok s) (.handle (machine inOrder)) = some t₀ ∧
      Lts.run sessionStep t₀ (ticksAt inOrder [1, 1000000000, 1000000000, 2000000000]) = some t ∧
      s.cmdQueue.head? = some playRequest ∧ PlaysAfresh playRequest s ∧
      stampsSince t₀ t = [0, 3600, 3600] ∧
      ¬ LoopsForward (eventsSince (sessionOf t₀).log.length (sessionOf t)) := by
  have hends : (loopRun inOrder [1, 1000000000, 1000000000, 2000000000]).map (fun r =>
      let l := eventsSince (sessionOf r.2.1).log.length (sessionOf r.2.2)
      let n := l.idxOf .sought
      decide ((r.1.cmdQueue.head? = some playRequest ∧ PlaysAfresh playRequest r.1 ∧
        stampsSince r.2.1 r.2.2 = [0, 3600, 3600]) ∧ l = l.take n ++ .sought :: l.drop (n + 1) ∧
        (sentFrames (l.take n)).map (fun vp => vp.rtpTimestamp) = [0, 3600] ∧
        (sentFrames (l.drop (n + 1))).map (fun vp => vp.rtpTimestamp) = [3600])) = some true := by
    decide +kernel
  obtain ⟨⟨s, t₀, t⟩, hrun, hall⟩ := Option.map_eq_some_iff.mp hends
  obtain ⟨hs, ht₀, ht⟩ := loopRun_spec hrun
  obtain ⟨⟨hfresh, hplays, hstamps⟩, hl, hbefore, hafter⟩ := of_decide_eq_true hall
  refine ⟨s, t₀, t, hs, ht₀, ht, hfresh, hplays, hstamps, fun hforward => ?_⟩
  have hlast : (3600 : UInt32) ∈ [0, 3600] := by decide
  have hfirst : (3600 : UInt32) ∈ [3600] := by decide
  rw [← hbefore] at hlast
  rw [← hafter] at hfirst
  obtain ⟨e, he, hets⟩ := List.mem_map.mp hlast
  obtain ⟨f, hf, hfts⟩ := List.mem_map.mp hfirst
  have hlt := hforward _ _ hl e he f hf
  rw [hets, hfts] at hlt
  exact absurd hlt (by decide)

/-- Three frames in order: the distance of the last two is learned. -/
def threeFrames : List AVPacket :=
  [demoPacket 0 0 true, demoPacket 3600 3600 false, demoPacket 7200 7200 false]

theorem loops_forward_threeFrames : ∃ s t₀ t,
    Lts.run sessionStep (.ok client) (untilPlay threeFrames) = some (.ok s) ∧
      sessionStep (.ok s) (.handle (machine threeFrames)) = some t₀ ∧
      Lts.run sessionStep t₀ (ticksAt threeFrames
        [1, 1000000000, 1000000000, 1000000000, 2000000000, 3000000000]) = some t ∧
      stampsSince t₀ t = [0, 3600, 7200, 10800, 14400] ∧
      LoopsForward (eventsSince (sessionOf t₀).log.length (sessionOf t)) := by
  have hends : (loopRun threeFrames
      [1, 1000000000, 1000000000, 1000000000, 2000000000, 3000000000]).map (fun r =>
        decide (r.1.cmdQueue.head? = some playRequest ∧ PlaysAfresh playRequest r.1 ∧
          stampsSince r.2.1 r.2.2 = [0, 3600, 7200, 10800, 14400] ∧
          Lts.Along sessionStep (LoopsOn (sessionOf r.2.1).log.length 0) r.2.1
            (ticksAt threeFrames
              [1, 1000000000, 1000000000, 1000000000, 2000000000, 3000000000]))) = some true := by
    decide +kernel
  obtain ⟨⟨s, t₀, t⟩, hrun, hall⟩ := Option.map_eq_some_iff.mp hends
  obtain ⟨hs, ht₀, ht⟩ := loopRun_spec hrun
  obtain ⟨hfresh, hplays, hstamps, hon⟩ := of_decide_eq_true hall
  exact ⟨s, t₀, t, hs, ht₀, ht, hstamps,
    loops_forward s (machine threeFrames) playRequest t₀ t _ 0 hfresh hplays ht₀ ht hon⟩

end RtspServer
