/-
  Whether the ticks keep up with the media clock. A tick handles one video frame, the one that is
  held or the next one of the source, and leaves the frames behind it to the later ticks; only the
  audio packets are sent in a loop. So a tick keeps up exactly when no frame behind the next one is
  due.

  `KeptUp` says that the frames which a tick did not send are due after it, `NextInTime` that the
  next tick sends its frame at most the time between the two late, and `OneDue` that no frame
  behind the next one is due. `keeps_up_iff`: the first two hold exactly when the last one does.
  `sixtyFps_falls_behind`: at 60 frames a second the third tick does not keep up.
-/
import RtspServer.Server.DescribedSource
import RtspServer.Server.PassFrames
import RtspServer.Server.PausedTime

namespace RtspServer

open ByteString Session IMediaSource

variable {D B : Type}

/-! ## Audio reads leave the frames alone -/

namespace MediaSource

/-- The sources differ in their audio packets at most. -/
def Alike (m n : MediaSource D B) : Prop := ∃ q, n = { m with audioQueue := q }

theorem Alike.symm {m n : MediaSource D B} (h : Alike m n) : Alike n m := by
  obtain ⟨q, rfl⟩ := h
  exact ⟨m.audioQueue, rfl⟩

theorem Alike.trans {m n k : MediaSource D B} (h : Alike m n) (h' : Alike n k) : Alike m k := by
  obtain ⟨q, rfl⟩ := h
  obtain ⟨q', rfl⟩ := h'
  exact ⟨q', rfl⟩

theorem alike_readAudioPacket (m : MediaSource D B) : Alike m m.readAudioPacket.2 := by
  unfold MediaSource.readAudioPacket
  repeat' split
  · exact ⟨m.audioQueue, rfl⟩
  · exact ⟨m.audioQueue, rfl⟩
  · exact ⟨_, rfl⟩

theorem alike_otherPacket (p : AVPacket) {m n : MediaSource D B} (h : Alike m n) :
    Alike (m.otherPacket p) (n.otherPacket p) := by
  obtain ⟨q, rfl⟩ := h
  unfold otherPacket
  dsimp only
  split <;> exact ⟨_, rfl⟩

variable [FFmpeg D B]

open FFmpeg

theorem alike_readContainer {m n : MediaSource D B} (h : Alike m n) :
    n.readContainer.1 = m.readContainer.1 ∧ Alike m.readContainer.2 n.readContainer.2 := by
  obtain ⟨q, rfl⟩ := h
  unfold readContainer
  dsimp only
  split
  · split <;> exact ⟨rfl, q, rfl⟩
  · next p d _ =>
      split
      · exact ⟨rfl, alike_otherPacket p ⟨q, rfl⟩⟩
      · split
        · exact ⟨rfl, q, rfl⟩
        · split <;> exact ⟨rfl, q, rfl⟩

theorem alike_readRound {m n : MediaSource D B} (h : Alike m n) :
    n.readRound.1 = m.readRound.1 ∧ Alike m.readRound.2 n.readRound.2 := by
  have hcontainer := @alike_readContainer D B _
  obtain ⟨q, rfl⟩ := h
  unfold readRound
  dsimp only
  split
  · exact hcontainer ⟨q, rfl⟩
  · split
    · exact ⟨rfl, q, rfl⟩
    · exact ⟨rfl, q, rfl⟩
    · exact ⟨rfl, q, rfl⟩
    · split
      · exact ⟨rfl, q, rfl⟩
      · exact hcontainer ⟨q, rfl⟩

theorem alike_readLoop (fuel : Nat) {m n : MediaSource D B} (h : Alike m n) :
    (readLoop fuel n).1 = (readLoop fuel m).1 ∧ Alike (readLoop fuel m).2 (readLoop fuel n).2 := by
  induction fuel generalizing m n with
  | zero => exact ⟨rfl, h⟩
  | succ fuel ih =>
      obtain ⟨hr, hm⟩ := alike_readRound h
      obtain ⟨r, m', hround⟩ : ∃ r m', m.readRound = (r, m') := ⟨_, _, rfl⟩
      obtain ⟨r', n', hround'⟩ : ∃ r n', n.readRound = (r, n') := ⟨_, _, rfl⟩
      rw [hround, hround'] at hr hm
      obtain rfl : r' = r := hr
      simp only [readLoop, hround, hround']
      cases r' with
      | some r => exact ⟨rfl, hm⟩
      | none => exact ih hm

theorem alike_readPacket {m n : MediaSource D B} (h : Alike m n) :
    n.readPacket.1 = m.readPacket.1 ∧ Alike m.readPacket.2 n.readPacket.2 := by
  have hloop := alike_readLoop (remaining B m.fmtCtx + 2) h
  obtain ⟨q, rfl⟩ := h
  unfold MediaSource.readPacket
  dsimp only
  split
  · exact ⟨rfl, q, rfl⟩
  · exact hloop

end MediaSource

/-! ## The frames at hand -/

variable [FFmpeg D B]

/-- The frames that the source returns next. -/
inductive MediaSource.Yields : MediaSource D B → List VideoPacket → Prop where
  | nil (m : MediaSource D B) : Yields m []
  | cons {m m' : MediaSource D B} {vp : VideoPacket} {vs : List VideoPacket}
      (hread : m.readPacket = (some vp, m')) (h : Yields m' vs) : Yields m (vp :: vs)

open MediaSource (Alike Yields)

theorem MediaSource.Yields.alike {m n : MediaSource D B} {vs : List VideoPacket}
    (h : m.Yields vs) (hn : Alike m n) : n.Yields vs := by
  induction h generalizing n with
  | nil => exact .nil n
  | @cons m m' vp vs hread _ ih =>
      obtain ⟨hr, ha⟩ := MediaSource.alike_readPacket hn
      rw [hread] at hr ha
      have hread' : n.readPacket = (some vp, n.readPacket.2) := Prod.ext hr rfl
      exact .cons hread' (ih ha)

theorem readAudio_alike (n : Nat) (m : MediaSource D B) :
    Alike m ((fun m => (readAudioPacket m).2)^[n] m) := by
  induction n generalizing m with
  | zero => exact ⟨m.audioQueue, rfl⟩
  | succ n ih => exact (MediaSource.alike_readAudioPacket m).trans (ih _)

/-- The held frame, unless it is stale. -/
def Session.heldFrames (s : Session (MediaSource D B)) : List VideoPacket :=
  if s.firstFrame then [] else s.pendingVp.toList

/-- The next frames of the session: the held one and those of the source, up to any point before
    its end. -/
def Session.AtHand (s : Session (MediaSource D B)) (fs : List VideoPacket) : Prop :=
  ∃ m gs, s.mediaSource = some m ∧ m.Yields gs ∧ fs = s.heldFrames ++ gs

/-- Those of them that are to be sent: with NAL units, and with a gate closed from a key frame
    on. -/
def Session.toSend (fs : List VideoPacket) (s : Session (MediaSource D B)) : List VideoPacket :=
  if s.firstFrame || s.resumeWaitingForIdr then playable fs else fs.filter fun vp => vp.nals ≠ []

/-- The clock of a tick with this next frame. -/
def Session.clockOf (now : Int) (first : VideoPacket) (s : Session (MediaSource D B)) :
    Session (MediaSource D B) :=
  if s.firstFrame then { s with wallStart := now, loopVideoOffset := first.rtpTimestamp }
  else s.resumeClock now

/-- No frame behind the next one is due. Before there is an anchor nothing is due, unless the next
    frame becomes the anchor. -/
def OneDue (now : Int) (s : Session (MediaSource D B)) : Prop :=
  ∀ first rest, s.AtHand (first :: rest) → (s.firstFrame = true → s.toSend [first] = [first]) →
    ∀ vp ∈ (s.toSend (first :: rest)).drop (s.toSend [first]).length,
      now < (s.clockOf now first).sendTime vp

/-- From `s` to `s'` a tick with these events has sent every frame that is due: of the frames to be
    sent it sent the first ones, and the others are due later. -/
def KeptUp (now : Int) (s : Session (MediaSource D B)) (l : List Event)
    (s' : Session (MediaSource D B)) : Prop :=
  s'.firstFrame = false → ∀ fs, s.AtHand fs →
    (s.toSend fs).take (sentFrames l).length <+: sentFrames l ∧
      ∀ vp ∈ (s.toSend fs).drop (sentFrames l).length, now < s'.sendTime vp

/-- The next tick sends no frame later than it is after this one. -/
def NextInTime (now : Int) (s : Session (MediaSource D B)) : Prop :=
  ∀ (env : Nat → Env (MediaSource D B)) (now' : Int) (s' : Session (MediaSource D B))
    (l : List Event) (vp : VideoPacket), now ≤ now' → s.pacerTick env now' = .ok s' →
    s'.log = s.log ++ l → .sending vp ∈ l → now' - s'.sendTime vp ≤ now' - now

section

variable {s : Session (MediaSource D B)} {first : VideoPacket}

omit [FFmpeg D B]

/-- The next frame is sent or passed over, whatever is behind it. -/
theorem toSend_cons (rest : List VideoPacket) :
    s.toSend [first] = [] ∧ s.toSend (first :: rest) = s.toSend rest ∨
      s.toSend [first] = [first] ∧
        s.toSend (first :: rest) = first :: rest.filter fun vp => vp.nals ≠ [] := by
  unfold toSend playable
  by_cases hnals : first.nals = []
  · refine .inl ?_
    split <;> simp [hnals]
  · by_cases hgate : (s.firstFrame || s.resumeWaitingForIdr) = true
    · simp only [hgate, if_true]
      cases hkey : first.isKeyFrame with
      | true => exact .inr (by simp [hnals, hkey])
      | false => exact .inl (by simp [hnals, hkey])
    · simp only [hgate]
      exact .inr (by simp [hnals])

theorem toSend_sends (h : s.toSend [first] = [first]) (rest : List VideoPacket) :
    s.toSend (first :: rest) = first :: rest.filter fun vp => vp.nals ≠ [] := by
  rcases toSend_cons (s := s) rest with ⟨hclosed, -⟩ | ⟨-, hcons⟩
  · rw [h] at hclosed
    cases hclosed
  · exact hcons

theorem toSend_passed (h : s.toSend [first] = []) (rest : List VideoPacket) :
    s.toSend (first :: rest) = s.toSend rest := by
  rcases toSend_cons (s := s) rest with ⟨-, hcons⟩ | ⟨hopen, -⟩
  · exact hcons
  · rw [h] at hopen
    cases hopen

/-- The frames to be sent behind the next one are behind it. -/
theorem mem_behind {rest : List VideoPacket} {vp : VideoPacket}
    (h : vp ∈ (s.toSend (first :: rest)).drop (s.toSend [first]).length) : vp ∈ rest := by
  rcases (toSend_cons rest : s.toSend [first] = [] ∧ _ ∨ _) with ⟨hclosed, hcons⟩ | ⟨hopen, hcons⟩
  · rw [hclosed, hcons, List.length_nil, List.drop_zero] at h
    unfold toSend playable at h
    split at h
    · exact List.mem_of_mem_filter ((List.dropWhile_sublist _).mem h)
    · exact List.mem_of_mem_filter h
  · rw [hopen, hcons] at h
    exact List.mem_of_mem_filter h

theorem toSend_open (hnals : first.nals ≠ [])
    (hgate : s.firstFrame = true ∨ s.resumeWaitingForIdr = true → first.isKeyFrame = true) :
    s.toSend [first] = [first] := by
  unfold toSend playable
  split
  · next h => simp [hnals, hgate (by simpa using h)]
  · simp [hnals]

theorem toSend_closed (h : first.nals = [] ∨
    (s.firstFrame = true ∨ s.resumeWaitingForIdr = true) ∧ first.isKeyFrame = false) :
    s.toSend [first] = [] := by
  unfold toSend playable
  rcases h with hnals | ⟨hgate, hkey⟩
  · split <;> simp [hnals]
  · rw [if_pos (by simpa using hgate)]
    by_cases hnals : first.nals = [] <;> simp [hnals, hkey]

end

/-! ## What a tick does with the next frame -/

/-- The held frame has NAL units. -/
def Session.HeldNals (s : Session (MediaSource D B)) : Prop :=
  ∀ vp, s.pendingVp = some vp → vp.nals ≠ []

/-- A tick with the next frame `first`. -/
inductive Handles (now : Int) (s : Session (MediaSource D B)) (l : List Event)
    (s' : Session (MediaSource D B)) (first : VideoPacket) : Prop where
  /-- it has no NAL units, or the gate is closed -/
  | passed (hopen : s.toSend [first] = []) (hsent : sentFrames l = [])
      (hfirst : s'.firstFrame = s.firstFrame)
      (hgate : s'.resumeWaitingForIdr = s.resumeWaitingForIdr) (hnone : s'.pendingVp = none)
  /-- it is not due -/
  | waits (hopen : s.toSend [first] = [first]) (hsent : sentFrames l = [])
      (hfirst : s'.firstFrame = false) (hheld : s'.pendingVp = some first)
      (hdue : now < s'.sendTime first)
  | sends (hopen : s.toSend [first] = [first]) (hsent : sentFrames l = [first])
      (hfirst : s'.firstFrame = false) (hnone : s'.pendingVp = none)

/-- What a tick without an end of the source or of the range does. -/
structure Advances (now : Int) (s : Session (MediaSource D B)) (l : List Event)
    (s' : Session (MediaSource D B)) (first : VideoPacket) : Prop where
  handles : Handles now s l s' first
  /-- it is the next frame -/
  head : ∀ fs, s.AtHand fs → fs = [] ∨ ∃ rest, fs = first :: rest
  clock : s'.firstFrame = false → s'.wallStart = (s.clockOf now first).wallStart ∧
    s'.loopVideoOffset = (s.clockOf now first).loopVideoOffset
  pause : s'.pauseStart = 0
  /-- the source goes on behind it -/
  source : ∀ m vs, s'.mediaSource = some m → m.Yields vs → s.AtHand (first :: vs)

theorem atHand_of_read {source source' : MediaSource D B} {vp : VideoPacket}
    {s : Session (MediaSource D B)} (hsource : s.mediaSource = some source)
    (hnone : s.firstFrame = true ∨ s.pendingVp = none)
    (hread : source.readPacket = (some vp, source')) :
    (∀ fs, s.AtHand fs → fs = [] ∨ ∃ rest, fs = vp :: rest) ∧
      ∀ vs, source'.Yields vs → s.AtHand (vp :: vs) := by
  have hframes : s.heldFrames = [] := by
    unfold heldFrames
    rcases hnone with h | h
    · rw [if_pos h]
    · rw [h]
      exact ite_self _
  refine ⟨fun fs h => ?_, fun vs hvs =>
    ⟨source, vp :: vs, hsource, .cons hread hvs, by rw [hframes]; rfl⟩⟩
  obtain ⟨m, gs, hm, hgs, rfl⟩ := h
  obtain rfl := Option.some.inj (hm.symm.trans hsource)
  rw [hframes]
  cases hgs with
  | nil => exact .inl rfl
  | cons hread' h =>
      obtain ⟨hvp, -⟩ := Prod.mk.inj (hread'.symm.trans hread)
      obtain rfl := Option.some.inj hvp
      exact .inr ⟨_, rfl⟩

theorem Holds.head {now : Int} {source source' : MediaSource D B} {vp : VideoPacket}
    {s t : Session (MediaSource D B)} (h : Holds now source s vp source' t)
    (hsource : s.mediaSource = some source) :
    (∀ fs, s.AtHand fs → fs = [] ∨ ∃ rest, fs = vp :: rest) ∧
      ∀ vs, source'.Yields vs → s.AtHand (vp :: vs) := by
  cases h with
  | kept _ _ _ _ hfirst hheld =>
      have hframes : s.heldFrames = [vp] := by
        unfold heldFrames
        rw [hfirst, hheld]
        rfl
      refine ⟨fun fs h => ?_, fun vs hvs => ⟨source, vs, hsource, hvs, by rw [hframes]; rfl⟩⟩
      obtain ⟨_, gs, -, -, rfl⟩ := h
      exact .inr ⟨gs, by rw [hframes]; rfl⟩
  | read _ _ _ _ _ hnone hread =>
      exact atHand_of_read hsource hnone hread

/-- Step 3 to 5 of a tick that holds a frame: it is to be sent, and step 3 sets the clock. -/
theorem Holds.open {now : Int} {source source' : MediaSource D B} {vp : VideoPacket}
    {s t : Session (MediaSource D B)} (h : Holds now source s vp source' t) (hI : s.HeldNals) :
    s.toSend [vp] = [vp] ∧ (s.firstFrame = false →
      t.wallStart = (s.clockOf now vp).wallStart ∧
        t.loopVideoOffset = (s.clockOf now vp).loopVideoOffset) := by
  have hclock : ∀ {wall pause : Int}, s.firstFrame = false →
      s.resumeClock now = { s with wallStart := wall, pauseStart := pause } →
      wall = (s.clockOf now vp).wallStart ∧
        s.loopVideoOffset = (s.clockOf now vp).loopVideoOffset := by
    intro wall pause hff heq
    unfold clockOf
    rw [hff, if_neg Bool.false_ne_true, heq]
    exact ⟨rfl, rfl⟩
  cases h with
  | kept _ _ _ heq hff hheld hgate =>
      refine ⟨toSend_open (hI vp hheld) fun h => ?_, fun _ => hclock hff heq⟩
      exact hgate (h.resolve_left (by rw [hff]; exact Bool.false_ne_true))
  | read _ _ _ _ heq _ _ hnals hgate =>
      exact ⟨toSend_open hnals hgate, fun hff => hclock hff heq⟩

/-- A frame is sent: the packets are no frames, and the source is read for audio at most. -/
theorem deliver_advances (env : Env (MediaSource D B)) (now : Int) {source : MediaSource D B}
    (vp : VideoPacket) {s : Session (MediaSource D B)} (hsource : s.mediaSource = some source) :
    (s.deliver env now source vp).wallStart = s.wallStart ∧
      (s.deliver env now source vp).loopVideoOffset = s.loopVideoOffset ∧
      (s.deliver env now source vp).pauseStart = s.pauseStart ∧
      (s.deliver env now source vp).firstFrame = s.firstFrame ∧
      (s.deliver env now source vp).pendingVp = none ∧
      ∀ m vs, (s.deliver env now source vp).mediaSource = some m → m.Yields vs →
        source.Yields vs := by
  obtain ⟨tail, -, -, seq, loads, close, aseq, held, n, heq⟩ := deliver_spec env now source vp s
  rw [heq]
  refine ⟨rfl, rfl, rfl, rfl, rfl, fun m vs hm hvs => ?_⟩
  have hm : s.mediaSource.map _ = some m := hm
  rw [hsource] at hm
  obtain rfl := Option.some.inj hm
  exact hvs.alike (readAudio_alike n source).symm

theorem advances_ticks {env : Env (MediaSource D B)} {now : Int} {s s' : Session (MediaSource D B)}
    {l : List Event} (h : Ticks env now s s') (hs : s.Streaming) (hI : s.HeldNals)
    (hlog : s'.log = s.log ++ l) (hseek : .sought ∉ l) (hstop : s'.state = .playing) :
    ∃ first, Advances now s l s' first := by
  have hsilent : s'.log = s.log → sentFrames l = [] := fun h => by
    rw [List.self_eq_append_right.mp (h.symm.trans hlog)]
    rfl
  cases h with
  | idle hidle => exact absurd hs hidle
  | @passes source _ _ hsource hp =>
      cases hp with
      | gated wall pause vp hclock hff hgate hheld hkey =>
          have hframes : s.heldFrames = [vp] := by
            unfold heldFrames
            rw [hff, hheld]
            rfl
          refine ⟨vp, .passed (toSend_closed (.inr ⟨.inr hgate, hkey⟩)) (hsilent rfl) rfl rfl rfl,
            fun fs hfs => ?_, fun _ => ?_, clock_cleared hclock, fun m vs hm hvs => ?_⟩
          · obtain ⟨_, gs, -, -, rfl⟩ := hfs
            exact .inr ⟨gs, by rw [hframes]; rfl⟩
          · unfold clockOf
            rw [hff, if_neg Bool.false_ne_true, hclock]
            exact ⟨rfl, rfl⟩
          · exact ⟨m, vs, hm, hvs, by rw [hframes]; rfl⟩
      | ended =>
          have heq : l = [.sought] := List.append_cancel_left (hlog.symm.trans rfl)
          rw [heq] at hseek
          exact absurd (List.mem_singleton.mpr rfl) hseek
      | skipped wall pause vp source' hclock hnone hread hskip =>
          obtain ⟨hhead, hbehind⟩ := atHand_of_read hsource hnone hread
          refine ⟨vp, .passed (toSend_closed hskip) (hsilent rfl) rfl rfl rfl, hhead, fun hff => ?_,
            clock_cleared hclock, fun m vs hm hvs => ?_⟩
          · have hff : s.firstFrame = false := hff
            unfold clockOf
            rw [hff, if_neg Bool.false_ne_true, hclock]
            exact ⟨rfl, rfl⟩
          · obtain rfl := Option.some.inj hm
            exact hbehind vs hvs
      | stopped => cases hstop
  | @waits source source' vp t _ hsource hh hff hdue =>
      obtain ⟨hm', hheld, -, hfirst⟩ := hh.facts hsource
      obtain ⟨hopen, hclock⟩ := hh.open hI
      obtain ⟨-, hpause, -⟩ := hh.clock
      obtain ⟨hhead, hbehind⟩ := hh.head hsource
      have hsent : sentFrames l = [] := by
        have heq : t.log ++ [Event.timed vp (t.mediaTicks vp)] = s.log ++ l := hlog
        rw [hh.log] at heq
        rw [← List.append_cancel_left heq]
        rfl
      refine ⟨vp, .waits hopen hsent (hfirst.trans hff) hheld hdue, hhead, fun _ => hclock hff, hpause,
        fun m vs hm hvs => ?_⟩
      obtain rfl := Option.some.inj (hm.symm.trans hm')
      exact hbehind vs hvs
  | @starts source source' vp t _ hsource hh hff =>
      obtain ⟨hm', -⟩ := hh.facts hsource
      obtain ⟨hopen, -⟩ := hh.open hI
      obtain ⟨-, hpause, -⟩ := hh.clock
      obtain ⟨hhead, hbehind⟩ := hh.head hsource
      obtain ⟨packets, hlog', hp⟩ := starts_log env now source' vp t
      obtain ⟨hwall, hoffset, hpause', hfirst', hnone, hyields⟩ := deliver_advances env now vp
        (s := (t.anchorAt now source' vp).emit (.timed vp 0)) hm'
      have hsent : sentFrames l = [vp] := by
        rw [hlog, hh.log] at hlog'
        rw [List.append_cancel_left hlog']
        exact sentFrames_sending vp hp
      refine ⟨vp, .sends hopen hsent hfirst' hnone, hhead, fun _ => ?_, hpause'.trans hpause,
        fun m vs hm hvs => hbehind vs (hyields m vs hm hvs)⟩
      unfold clockOf
      rw [if_pos hff]
      exact ⟨hwall, hoffset⟩
  | @sends source source' vp t _ hsource hh hff hdue =>
      obtain ⟨hm', -, -, hfirst⟩ := hh.facts hsource
      obtain ⟨hopen, hclock⟩ := hh.open hI
      obtain ⟨-, hpause, -⟩ := hh.clock
      obtain ⟨hhead, hbehind⟩ := hh.head hsource
      obtain ⟨packets, hlog', hp⟩ := sends_log env now source' vp t
      obtain ⟨hwall, hoffset, hpause', hfirst', hnone, hyields⟩ := deliver_advances env now vp
        (s := t.emit (.timed vp (t.mediaTicks vp))) hm'
      have hsent : sentFrames l = [vp] := by
        rw [hlog, hh.log] at hlog'
        rw [List.append_cancel_left hlog']
        exact sentFrames_sending vp hp
      refine ⟨vp, .sends hopen hsent (hfirst'.trans (hfirst.trans hff)) hnone, hhead, fun _ => ?_,
        hpause'.trans hpause, fun m vs hm hvs => hbehind vs (hyields m vs hm hvs)⟩
      obtain ⟨hw, ho⟩ := hclock hff
      exact ⟨hwall.trans hw, hoffset.trans ho⟩

omit [FFmpeg D B] in
theorem sendTime_congr {s s' : Session (MediaSource D B)} (hwall : s'.wallStart = s.wallStart)
    (hoffset : s'.loopVideoOffset = s.loopVideoOffset) (vp : VideoPacket) :
    s'.sendTime vp = s.sendTime vp := by
  unfold sendTime mediaSecs
  rw [hwall, hoffset]

theorem Advances.keptUp_iff {now : Int} {s s' : Session (MediaSource D B)} {l : List Event}
    {first : VideoPacket} (h : Advances now s l s' first) : KeptUp now s l s' ↔ OneDue now s := by
  have htime : s'.firstFrame = false → ∀ vp, s'.sendTime vp = (s.clockOf now first).sendTime vp :=
    fun hff => sendTime_congr (h.clock hff).1 (h.clock hff).2
  constructor
  · intro hkept first' rest hfs hanchor vp hvp
    obtain rfl : first' = first := by
      rcases h.head _ hfs with heq | ⟨rest', heq⟩
      · cases heq
      · exact (List.cons.inj heq).1
    cases h.handles with
    | passed hopen hsent hfirst =>
        have hff : s'.firstFrame = false := by
          rw [hfirst]
          refine Bool.of_not_eq_true fun hff => ?_
          rw [hopen] at hanchor
          cases hanchor hff
        rw [hopen] at hvp
        rw [← htime hff]
        refine (hkept hff _ hfs).2 vp ?_
        rw [hsent]
        exact hvp
    | waits hopen hsent hff =>
        rw [← htime hff]
        refine (hkept hff _ hfs).2 vp ?_
        rw [hsent]
        exact List.mem_of_mem_drop hvp
    | sends hopen hsent hff =>
        rw [hopen] at hvp
        rw [← htime hff]
        refine (hkept hff _ hfs).2 vp ?_
        rw [hsent]
        exact hvp
  · intro hone hff fs hfs
    rcases h.head fs hfs with rfl | ⟨rest, rfl⟩
    · have hnil : s.toSend [] = [] := by
        unfold toSend playable
        split <;> rfl
      rw [hnil, List.take_nil, List.drop_nil]
      exact ⟨List.nil_prefix, fun _ hvp => nomatch hvp⟩
    have hdue := hone first rest hfs
    cases h.handles with
    | passed hopen hsent hfirst =>
        have hanchor : s.firstFrame = true → s.toSend [first] = [first] := by
          intro hff'
          rw [hfirst, hff'] at hff
          cases hff
        rw [hsent]
        refine ⟨List.nil_prefix, fun vp hvp => ?_⟩
        rw [htime hff]
        refine hdue hanchor vp ?_
        rw [hopen]
        exact hvp
    | waits hopen hsent _ _ hlate =>
        have hcons := toSend_sends hopen rest
        rw [hsent]
        refine ⟨List.nil_prefix, fun vp hvp => ?_⟩
        rcases List.mem_cons.mp (hcons ▸ hvp) with rfl | hvp
        · exact hlate
        · rw [htime hff]
          refine hdue (fun _ => hopen) vp ?_
          rw [hopen, hcons]
          exact hvp
    | sends hopen hsent =>
        have hcons := toSend_sends hopen rest
        rw [hsent]
        refine ⟨?_, fun vp hvp => ?_⟩
        · rw [hcons]
          exact List.prefix_rfl
        · rw [htime hff]
          refine hdue (fun _ => hopen) vp ?_
          rw [hopen]
          exact hvp

/-! ## The next tick -/

theorem pacerTick_nil {s : Session (MediaSource D B)} (h : s.cmdQueue = [])
    (env : Nat → Env (MediaSource D B)) (now : Int) :
    s.pacerTick env now = .ok (s.pace (env 0) now) := by
  unfold pacerTick
  rw [h]
  rfl

/-- A frame that the next tick reads was behind the next one of this tick. -/
theorem Advances.read {now : Int} {s s' : Session (MediaSource D B)} {l : List Event}
    {first vp : VideoPacket} {source source' : MediaSource D B} (h : Advances now s l s' first)
    (hone : OneDue now s) (hsource : s'.mediaSource = some source)
    (hff : s'.firstFrame = false) (hnone : s'.pendingVp = none)
    (hread : source.readPacket = (some vp, source')) (hnals : vp.nals ≠ [])
    (hgate : s'.firstFrame = true ∨ s'.resumeWaitingForIdr = true → vp.isKeyFrame = true) :
    now < s'.sendTime vp := by
  have hbehind : s.AtHand [first, vp] := h.source source [vp] hsource (.cons hread (.nil source'))
  have hdue := hone first [vp] hbehind
  rw [sendTime_congr (h.clock hff).1 (h.clock hff).2]
  cases h.handles with
  | passed hopen hsent hfirst hgate' =>
      have hvp : s.toSend [vp] = [vp] := by
        refine toSend_open hnals ?_
        rw [← hfirst, ← hgate']
        exact hgate
      refine hdue (fun hff' => ?_) vp ?_
      · rw [hfirst, hff'] at hff
        cases hff
      · rw [hopen, toSend_passed hopen, hvp]
        exact List.mem_singleton.mpr rfl
  | waits _ _ _ hheld =>
      rw [hheld] at hnone
      cases hnone
  | sends hopen =>
      refine hdue (fun _ => hopen) vp ?_
      rw [hopen, toSend_sends hopen]
      simp [hnals]

/-- A tick whose next frame is alone in being due is followed by one that is in time. -/
theorem Advances.nextInTime {now : Int} {s s' : Session (MediaSource D B)} {l : List Event}
    {first : VideoPacket} (h : Advances now s l s' first) (hone : OneDue now s)
    (hq : s'.cmdQueue = []) : NextInTime now s' := by
  intro env now' s'' l' vp hle htick hlog hl
  rw [pacerTick_nil hq] at htick
  obtain rfl := Except.ok.inj htick
  obtain ⟨source, source', t, packets, hsource, hh, -, ⟨-, heq, -⟩ | ⟨hff, heq, -⟩⟩ :=
    (ticks_pace (env 0) now' s').sending hlog hl
  · -- the frame anchors the clock
    obtain ⟨hm', -⟩ := hh.facts hsource
    obtain ⟨hwall, hoffset, -⟩ := deliver_advances (env 0) now' vp
      (s := (t.anchorAt now' source' vp).emit (.timed vp 0)) hm'
    rw [heq, sendTime_congr hwall hoffset, sendTime_anchorAt]
    omega
  · obtain ⟨hm', -⟩ := hh.facts hsource
    obtain ⟨hwall, hoffset, -⟩ := deliver_advances (env 0) now' vp
      (s := t.emit (.timed vp (t.mediaTicks vp))) hm'
    obtain ⟨-, -, hwall'⟩ := hh.clock
    have hdue : now < s'.sendTime vp := by
      cases hh with
      | kept _ _ _ _ _ hheld =>
          cases h.handles with
          | passed _ _ _ _ hnone =>
              rw [hnone] at hheld
              cases hheld
          | waits _ _ _ hheld' hlate =>
              obtain rfl := Option.some.inj (hheld'.symm.trans hheld)
              exact hlate
          | sends _ _ _ hnone =>
              rw [hnone] at hheld
              cases hheld
      | read _ _ _ _ _ hnone hread hnals hgate =>
          have hnone : s'.pendingVp = none :=
            hnone.resolve_left (by rw [hff]; exact Bool.false_ne_true)
          exact h.read hone hsource hff hnone hread hnals hgate
    have hoffset' : t.loopVideoOffset = s'.loopVideoOffset := by
      cases hh <;> rfl
    rw [heq, sendTime_congr hwall hoffset]
    change now' - t.sendTime vp ≤ now' - now
    rw [sendTime_congr (hwall' h.pause) hoffset']
    omega

/-! ## Runs -/

theorem pendingVp_handleDescribe (env : Env (MediaSource D B)) (req : RTSPRequest)
    (s : Session (MediaSource D B)) : (s.handleDescribe env req).pendingVp = s.pendingVp := by
  unfold handleDescribe
  rcases openMedia_ok env req.url req.cseq { s with mediaSource := none } with
    ⟨path, source, -, heq⟩ | ⟨code, reason, source, -, heq⟩
  · rw [heq]
    rfl
  · rw [heq]
    rfl

theorem heldNals_handleRequest (env : Env (MediaSource D B)) (req : RTSPRequest)
    {s : Session (MediaSource D B)} (h : s.HeldNals) :
    (sessionOf (s.handleRequest env req)).HeldNals := by
  have haside : ∀ {t s' : Session (MediaSource D B)}, t.HeldNals → Aside t s' → s'.HeldNals := by
    intro t s' ht ha vp hvp
    exact ht vp ((congrArg Stream.pendingVp ha.stream).symm.trans hvp)
  have hseek : ∀ (secs : Rat) (adjust : Bool), (s.seekAndReset secs adjust).HeldNals := by
    intro secs adjust
    rcases seekAndReset_eq secs adjust s with ⟨-, heq⟩ | ⟨_, -, heq⟩
    · rw [heq]
      exact h
    · rw [heq]
      exact fun _ hvp => nomatch hvp
  by_cases hdescribe : req.method = ascii "DESCRIBE"
  · have heq : sessionOf (s.handleRequest env req) = s.handleDescribe env req := by
      unfold handleRequest
      rw [hdescribe]
      rfl
    intro vp hvp
    rw [heq, pendingVp_handleDescribe] at hvp
    exact h vp hvp
  · cases serves_handleRequest env s hdescribe with
    | aside ha => exact haside h ha
    | scales _ _ _ _ ha => exact haside (hseek _ _) ha
    | plays start stop _ _ _ _ ha =>
        have hinfo : ((s.freshPlay start stop).rtpInfo req.url).2.HeldNals := by
          rw [rtpInfo_eq]
          exact hseek start false
        exact haside hinfo ha

theorem heldNals_ticks {env : Env (MediaSource D B)} {now : Int}
    {s s' : Session (MediaSource D B)} (h : Ticks env now s s') (hI : s.HeldNals) :
    s'.HeldNals := by
  have hholds : ∀ {source source' : MediaSource D B} {vp : VideoPacket}
      {t : Session (MediaSource D B)}, Holds now source s vp source' t → t.HeldNals := by
    intro source source' vp t hh
    cases hh with
    | kept _ _ _ _ _ hheld => exact hI
    | read _ _ _ _ _ _ _ hnals =>
        intro vp' hvp
        obtain rfl := Option.some.inj hvp
        exact hnals
  have hdeliver : ∀ (source : MediaSource D B) (vp : VideoPacket) (t : Session (MediaSource D B)),
      (t.deliver env now source vp).HeldNals := by
    intro source vp t
    obtain ⟨_, -, -, _, _, _, _, _, _, heq⟩ := deliver_spec env now source vp t
    rw [heq]
    exact fun _ hvp => nomatch hvp
  cases h with
  | idle =>
      obtain ⟨pause, heq⟩ := notStreaming_eq now s
      rw [heq]
      intro vp hvp
      have hvp : (if s.state = .paused then s.pendingVp else none) = some vp := hvp
      split at hvp
      · exact hI vp hvp
      · cases hvp
  | passes _ _ hp =>
      intro vp hvp
      rw [hp.pendingVp] at hvp
      cases hvp
  | waits _ _ hh => exact fun vp hvp => hholds hh vp hvp
  | starts => exact hdeliver _ _ _
  | sends => exact hdeliver _ _ _

theorem heldNals_step {t t' : Handled (MediaSource D B)} {a : SessionAct (MediaSource D B)}
    (hI : (sessionOf t).HeldNals) (h : sessionStep t a = some t') : (sessionOf t').HeldNals := by
  cases t with
  | error s => cases h
  | ok s =>
      cases a with
      | command req =>
          obtain rfl := Option.some.inj h
          exact hI
      | handle env =>
          obtain ⟨req, rest, -, rfl⟩ := handle_cases h
          exact heldNals_handleRequest env req
            (s := { s with cmdQueue := rest }.emit (.request req)) hI
      | pace env now =>
          obtain rfl := Option.some.inj h
          exact heldNals_ticks (ticks_pace env now s) hI

theorem heldNals_of_run {clientIp mediaRoot sessionId : Bytes} {ssrc audioSsrc : UInt32}
    {as : List (SessionAct (MediaSource D B))} {t : Handled (MediaSource D B)}
    (h : Lts.run sessionStep (.ok (Session.new clientIp mediaRoot sessionId ssrc audioSsrc)) as =
      some t) : (sessionOf t).HeldNals := by
  refine Lts.run_stable (I := fun u => (sessionOf u).HeldNals)
    (fun _ _ _ hI h => heldNals_step hI h) ?_ h
  exact fun _ hvp => nomatch hvp

/-- A tick of a session that plays, without an end of the source or of the range, sends all that is
    due, and the next one is in time, exactly when no frame behind the next one is due. -/
theorem keeps_up_iff (clientIp mediaRoot sessionId : Bytes) (ssrc audioSsrc : UInt32)
    (as : List (SessionAct (MediaSource D B))) (s s' : Session (MediaSource D B))
    (env : Nat → Env (MediaSource D B)) (now : Int) (l : List Event)
    (hrun : Lts.run sessionStep (.ok (Session.new clientIp mediaRoot sessionId ssrc audioSsrc)) as =
      some (.ok s))
    (hs : s.Streaming) (hq : s.cmdQueue = []) (htick : s.pacerTick env now = .ok s')
    (hlog : s'.log = s.log ++ l) (hseek : .sought ∉ l) (hstop : s'.state = .playing) :
    KeptUp now s l s' ∧ NextInTime now s' ↔ OneDue now s := by
  rw [pacerTick_nil hq] at htick
  obtain rfl := Except.ok.inj htick
  have hticks := ticks_pace (env 0) now s
  obtain ⟨first, h⟩ := advances_ticks hticks hs (heldNals_of_run hrun) hlog hseek hstop
  have hq' : (s.pace (env 0) now).cmdQueue = [] := hticks.cmdQueue.trans hq
  constructor
  · exact fun hkept => h.keptUp_iff.mp hkept.1
  · exact fun hone => ⟨h.keptUp_iff.mpr hone, h.nextInTime hone hq'⟩

/-! ## A file at 60 frames a second -/

def sixtyFps : List AVPacket :=
  [demoPacket 0 0 true, demoPacket 1500 1500 false, demoPacket 3000 3000 false,
    demoPacket 4500 4500 false]

/-- A fresh PLAY of the file and the tick that sends its first frame, up to the second tick. -/
def untilSecondTick : List (SessionAct (MediaSource PacketList Unit)) :=
  untilPlay sixtyFps ++ [.handle (machine sixtyFps), .pace (machine sixtyFps) 1]

/-- The same up to the third tick: the second one was 30 ms behind the first. -/
def untilThirdTick : List (SessionAct (MediaSource PacketList Unit)) :=
  untilSecondTick ++ [.pace (machine sixtyFps) 30000001]

/-- The session before and after a tick behind this run. -/
def tickAfter (as : List (SessionAct (MediaSource PacketList Unit))) (now : Int) :
    Option (Session (MediaSource PacketList Unit) × Session (MediaSource PacketList Unit)) :=
  match Lts.run sessionStep (.ok client) as with
  | some (.ok s) =>
      match s.pacerTick (fun _ => machine sixtyFps) now with
      | .ok s' => some (s, s')
      | .error _ => none
  | _ => none

theorem tickAfter_spec {as : List (SessionAct (MediaSource PacketList Unit))} {now : Int}
    {s s' : Session (MediaSource PacketList Unit)} (h : tickAfter as now = some (s, s')) :
    Lts.run sessionStep (.ok client) as = some (.ok s) ∧
      s.pacerTick (fun _ => machine sixtyFps) now = .ok s' := by
  unfold tickAfter at h
  split at h
  · next t ht =>
      split at h
      · next t' ht' =>
          obtain ⟨rfl, rfl⟩ := Prod.mk.inj (Option.some.inj h)
          exact ⟨ht, ht'⟩
      · cases h
  · cases h

/-- The session plays on over the tick, without an end of the source or of the range. -/
def KeepsPlaying (s s' : Session (MediaSource PacketList Unit)) : Prop :=
  s.Streaming ∧ s.cmdQueue = [] ∧ s'.log = s.log ++ s'.log.drop s.log.length ∧
    .sought ∉ s'.log.drop s.log.length ∧ s'.state = .playing

instance (s s' : Session (MediaSource PacketList Unit)) : Decidable (KeepsPlaying s s') :=
  inferInstanceAs (Decidable (_ ∧ _))

theorem MediaSource.Yields.next {m : MediaSource D B} {vs : List VideoPacket} (h : m.Yields vs) :
    vs = [] ∨ ∃ vp rest, vs = vp :: rest ∧ m.readPacket.1 = some vp ∧ m.readPacket.2.Yields rest := by
  cases h with
  | nil => exact .inl rfl
  | cons hread h =>
      rw [hread]
      exact .inr ⟨_, _, rfl, rfl, h⟩

/-- The second tick sends the frame at 16.7 ms, and the one at 33.3 ms is not due. -/
theorem keeps_up_iff_sixtyFps : ∃ s s',
    Lts.run sessionStep (.ok client) untilSecondTick = some (.ok s) ∧
      s.pacerTick (fun _ => machine sixtyFps) 30000001 = .ok s' ∧
      KeptUp 30000001 s (s'.log.drop s.log.length) s' ∧ NextInTime 30000001 s' := by
  have hends : (tickAfter untilSecondTick 30000001).map (fun r => decide (KeepsPlaying r.1 r.2 ∧
      r.1.firstFrame = false ∧ r.1.pauseStart = 0 ∧ r.1.pendingVp = none ∧
      r.1.resumeWaitingForIdr = false ∧
      r.1.mediaSource.map (fun m => (m.readPacket.1, m.readPacket.2.readPacket.1,
        m.readPacket.2.readPacket.2.readPacket.1,
        m.readPacket.2.readPacket.2.readPacket.2.readPacket.1)) =
        some (some (demoFrame (demoPacket 1500 1500 false) 1500),
          some (demoFrame (demoPacket 3000 3000 false) 3000),
          some (demoFrame (demoPacket 4500 4500 false) 4500), none) ∧
      30000001 < r.1.sendTime (demoFrame (demoPacket 3000 3000 false) 3000) ∧
      30000001 < r.1.sendTime (demoFrame (demoPacket 4500 4500 false) 4500))) = some true := by
    decide +kernel
  obtain ⟨⟨s, s'⟩, hrun, hall⟩ := Option.map_eq_some_iff.mp hends
  obtain ⟨hs, htick⟩ := tickAfter_spec hrun
  obtain ⟨⟨hstreaming, hq, hlog, hseek, hstop⟩, hff, hpause, hnone, hgate, hsource, hlate, hlate'⟩ :=
    of_decide_eq_true hall
  refine ⟨s, s', hs, htick, (keeps_up_iff _ _ _ _ _ untilSecondTick s s' _ _ _ hs hstreaming hq
    htick hlog hseek hstop).mpr ?_⟩
  intro first rest hhand _ vp hvp
  obtain ⟨m, gs, hm, hyields, heq⟩ := hhand
  rw [hm] at hsource
  obtain ⟨hread₁, hread₂, hread₃, hread₄⟩ := by simpa only [Option.map_some, Option.some.injEq,
    Prod.mk.injEq] using hsource
  have hheld : s.heldFrames = [] := by
    unfold heldFrames
    rw [hnone]
    exact ite_self _
  have hclock : s.clockOf 30000001 first = s := by
    unfold clockOf resumeClock
    rw [hff, hpause]
    rfl
  rw [hheld, List.nil_append] at heq
  rw [hclock]
  -- behind the next frame there are at most the last two of the file
  have hrest : vp = demoFrame (demoPacket 3000 3000 false) 3000 ∨
      vp = demoFrame (demoPacket 4500 4500 false) 4500 := by
    have hmem := mem_behind hvp
    rcases hyields.next with hgs | ⟨f₁, vs₁, hgs, -, hyields₁⟩
    · rw [hgs] at heq
      cases heq
    · obtain ⟨-, rfl⟩ := List.cons.inj (heq.trans hgs)
      rcases hyields₁.next with rfl | ⟨f₂, vs₂, rfl, hf₂, hyields₂⟩
      · cases hmem
      · obtain rfl := Option.some.inj (hf₂.symm.trans hread₂)
        rcases hyields₂.next with rfl | ⟨f₃, vs₃, rfl, hf₃, hyields₃⟩
        · exact .inl (List.mem_singleton.mp hmem)
        · obtain rfl := Option.some.inj (hf₃.symm.trans hread₃)
          rcases hyields₃.next with rfl | ⟨f₄, vs₄, -, hf₄, -⟩
          · simpa using hmem
          · rw [hread₄] at hf₄
            cases hf₄
  rcases hrest with rfl | rfl
  · exact hlate
  · exact hlate'

/-- The fourth frame is due 50 ms after the first one, and the tick at 60 ms leaves it. -/
theorem sixtyFps_falls_behind : ∃ s s',
    Lts.run sessionStep (.ok client) untilThirdTick = some (.ok s) ∧
      s.pacerTick (fun _ => machine sixtyFps) 60000001 = .ok s' ∧ KeepsPlaying s s' ∧
      ¬ KeptUp 60000001 s (s'.log.drop s.log.length) s' := by
  have hends : (tickAfter untilThirdTick 60000001).map (fun r => decide (KeepsPlaying r.1 r.2 ∧
      sentFrames (r.2.log.drop r.1.log.length) = [demoFrame (demoPacket 3000 3000 false) 3000] ∧
      r.1.firstFrame = false ∧ r.1.resumeWaitingForIdr = false ∧ r.1.pendingVp = none ∧
      r.1.mediaSource.map (fun m => (m.readPacket.1, m.readPacket.2.readPacket.1)) =
        some (some (demoFrame (demoPacket 3000 3000 false) 3000),
          some (demoFrame (demoPacket 4500 4500 false) 4500)) ∧
      r.2.firstFrame = false ∧
      r.2.sendTime (demoFrame (demoPacket 4500 4500 false) 4500) = 50000001)) = some true := by
    decide +kernel
  obtain ⟨⟨s, s'⟩, hrun, hall⟩ := Option.map_eq_some_iff.mp hends
  obtain ⟨hs, htick⟩ := tickAfter_spec hrun
  obtain ⟨hplays, hsent, hff, hgate, hnone, hsource, hff', htime⟩ := of_decide_eq_true hall
  refine ⟨s, s', hs, htick, hplays, fun hkept => ?_⟩
  obtain ⟨m, hm, hread⟩ := Option.map_eq_some_iff.mp hsource
  obtain ⟨hread, hread'⟩ := Prod.mk.inj hread
  have hhand : s.AtHand [demoFrame (demoPacket 3000 3000 false) 3000,
      demoFrame (demoPacket 4500 4500 false) 4500] := by
    refine ⟨m, _, hm, .cons (Prod.ext hread rfl) (.cons (Prod.ext hread' rfl) (.nil _)), ?_⟩
    unfold heldFrames
    rw [hff, hnone]
    rfl
  have hdue := (hkept hff' _ hhand).2 (demoFrame (demoPacket 4500 4500 false) 4500) (by
    rw [hsent]
    unfold toSend
    rw [hff, hgate]
    decide)
  rw [htime] at hdue
  exact absurd hdue (by decide)

end RtspServer
