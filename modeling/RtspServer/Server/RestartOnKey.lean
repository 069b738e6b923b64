/-
  Decoding starts again on a key frame. After a fresh PLAY, a Scale PLAY and the end of the
  source the session waits for a key frame (`AwaitsKey`), whatever requests other than DESCRIBE
  come in between; the tick that first holds one anchors the clock on it and sends it.

  A PLAY without a source does not seek, but then nothing is sent either before a DESCRIBE opens
  one.
-/
import RtspServer.Server.SendPath
import RtspServer.Server.SessionMoves

namespace RtspServer

open ByteString Session IMediaSource

variable {M : Type} [IMediaSource M]

/-- The step starts the stream again: a fresh or a Scale PLAY, or a tick at the end of the
    source. -/
def Restarts (s : Session M) : SessionAct M → Handled M → Prop
  | .handle _, _ => ∃ req rest, s.cmdQueue = req :: rest ∧ req.method = ascii "PLAY" ∧
      s.state ≠ .init ∧ s.state ≠ .paused
  | .pace _ _, t => ∃ l, (sessionOf t).log = s.log ++ l ∧ .sought ∈ l
  | .command _, _ => False

/-- The event sends a frame or asks for another source. -/
def Event.endsWait : Event → Bool
  | .sending _ => true
  | .request req => req.method = ascii "DESCRIBE"
  | _ => false

/-- The next frame that is held has to be a key frame and anchors the clock. -/
def AwaitsKey (s : Session M) : Prop :=
  s.mediaSource = none ∨ s.firstFrame = true ∧ s.pendingVp = none

omit [IMediaSource M] in
theorem AwaitsKey.of_stream {s s' : Session M} (h : AwaitsKey s)
    (hstream : streamOf s' = streamOf s) : AwaitsKey s' := by
  rcases h with h | ⟨hff, hvp⟩
  · exact .inl ((congrArg Stream.source hstream).trans h)
  · exact .inr ⟨(congrArg Stream.firstFrame hstream).trans hff,
      (congrArg Stream.pendingVp hstream).trans hvp⟩

theorem awaitsKey_seekAndReset (secs : Rat) (adjust : Bool) (s : Session M) :
    AwaitsKey (s.seekAndReset secs adjust) := by
  rcases seekAndReset_eq secs adjust s with ⟨hnone, heq⟩ | ⟨source, -, heq⟩
  · rw [heq]
    exact .inl hnone
  · rw [heq]
    exact .inr ⟨rfl, rfl⟩

theorem awaitsKey_freshPlay (start stop : Rat) (url : Bytes) (s : Session M) :
    AwaitsKey ((s.freshPlay start stop).rtpInfo url).2 := by
  rw [rtpInfo_eq]
  rcases awaitsKey_seekAndReset start false s with h | ⟨hff, hvp⟩
  · exact .inl (congrArg (Option.map _) h)
  · exact .inr ⟨hff, hvp⟩

/-- A request other than DESCRIBE leaves the wait alone; a PLAY that seeks starts it. -/
theorem awaitsKey_serves {req : RTSPRequest} {s s' : Session M} (h : Serves req s s')
    (hwait : AwaitsKey s ∨
      req.method = ascii "PLAY" ∧ s.state ≠ .init ∧ s.state ≠ .paused) : AwaitsKey s' := by
  cases h with
  | aside ha _ hplay =>
      rcases hwait with hs | ⟨hm, hinit, hpaused⟩
      · exact hs.of_stream ha.stream
      · rcases hplay hm with h | h
        · exact absurd h hinit
        · exact absurd h hpaused
  | scales _ _ _ _ ha => exact (awaitsKey_seekAndReset _ true s).of_stream ha.stream
  | plays start stop _ _ _ _ ha =>
      exact (awaitsKey_freshPlay start stop req.url s).of_stream ha.stream

theorem awaitsKey_handleNext (env : Env M) {req : RTSPRequest} (rest : List RTSPRequest)
    {s : Session M} (hdescribe : req.method ≠ ascii "DESCRIBE")
    (hwait : AwaitsKey s ∨
      req.method = ascii "PLAY" ∧ s.state ≠ .init ∧ s.state ≠ .paused) :
    AwaitsKey (sessionOf (s.handleNext env req rest)) := by
  have hserves := serves_handleRequest env ({ s with cmdQueue := rest }.emit (.request req)) hdescribe
  exact awaitsKey_serves hserves hwait

omit [IMediaSource M] in
theorem awaitsKey_idle (now : Int) {s : Session M} (h : AwaitsKey s) :
    AwaitsKey (s.notStreaming now) := by
  obtain ⟨pause, heq⟩ := notStreaming_eq now s
  rw [heq]
  rcases h with h | ⟨hff, hvp⟩
  · exact .inl h
  · refine .inr ⟨hff, ?_⟩
    change (if s.state = .paused then s.pendingVp else none) = none
    rw [hvp, ite_self]

/-- A tick that sends nothing goes on waiting. -/
theorem awaitsKey_ticks {env : Env M} {now : Int} {s s' : Session M} {l : List Event}
    (h : Ticks env now s s') (hlog : s'.log = s.log ++ l) (hl : ∀ e ∈ l, e.endsWait = false)
    (hs : AwaitsKey s) : AwaitsKey s' := by
  have hfirst : s.Streaming → s.firstFrame = true := by
    intro hstream
    rcases hs with hnone | ⟨hff, -⟩
    · have := hstream.2.1
      rw [hnone] at this
      cases this
    · exact hff
  cases h with
  | idle => exact awaitsKey_idle now hs
  | passes hstream _ hp =>
      refine .inr ⟨?_, hp.pendingVp⟩
      have hff := hfirst hstream
      cases hp
      case ended => rfl
      all_goals exact hff
  | waits hstream _ _ hff =>
      rw [hfirst hstream] at hff
      cases hff
  | sends hstream _ _ hff =>
      rw [hfirst hstream] at hff
      cases hff
  | @starts _ source' vp t _ _ hh =>
      obtain ⟨packets, hlog', -⟩ := starts_log env now source' vp t
      rw [hlog, hh.log] at hlog'
      rw [List.append_cancel_left hlog'] at hl
      cases hl (.sending vp) (by simp)

/-- The events of a tick that starts the stream: the clock is anchored on the frame it sends. -/
structure StartsOn (now : Int) (vp : VideoPacket) (l : List Event) (s' : Session M) : Prop where
  key : vp.isKeyFrame = true
  events : ∃ packets, l = .anchored vp now :: .timed vp 0 :: .sending vp :: packets ∧
    ∀ e ∈ packets, e.packetTrack.isSome = true
  wallStart : s'.wallStart = now
  loopVideoOffset : s'.loopVideoOffset = vp.rtpTimestamp

/-- A tick that sends a frame while the clock has to be anchored. -/
theorem startsOn_of_first {env : Env M} {now : Int} {s s' : Session M} {l : List Event}
    {vp : VideoPacket} (h : Ticks env now s s') (hlog : s'.log = s.log ++ l)
    (hl : .sending vp ∈ l) (hff : s.firstFrame = true) : StartsOn now vp l s' := by
  obtain ⟨source, source', t, packets, -, hholds, hpackets, hcase⟩ := h.sending hlog hl
  rcases hcase with ⟨-, heq, hevents⟩ | ⟨hno, -⟩
  · have hkey : vp.isKeyFrame = true := by
      cases hholds with
      | kept _ _ _ _ hno =>
          rw [hff] at hno
          cases hno
      | read _ _ _ _ _ _ _ _ hgate => exact hgate (.inl hff)
    obtain ⟨tail, -, -, seq, loads, close, aseq, held, n, hdeliver⟩ :=
      deliver_spec env now source' vp ((t.anchorAt now source' vp).emit (.timed vp 0))
    refine ⟨hkey, ⟨packets, hevents, hpackets⟩, ?_, ?_⟩
    · rw [heq, hdeliver]
      rfl
    · rw [heq, hdeliver]
      rfl
  · rw [hff] at hno
    cases hno

/-- The first tick that sends a frame. -/
theorem startsOn_ticks {env : Env M} {now : Int} {s s' : Session M} {l : List Event}
    {vp : VideoPacket} (h : Ticks env now s s') (hlog : s'.log = s.log ++ l)
    (hl : .sending vp ∈ l) (hs : AwaitsKey s) : s.pendingVp = none ∧ StartsOn now vp l s' := by
  obtain ⟨source, _, _, _, hsource, -⟩ := h.sending hlog hl
  rcases hs with hnone | ⟨hff, hvp⟩
  · rw [hsource] at hnone
    cases hnone
  · exact ⟨hvp, startsOn_of_first h hlog hl hff⟩

theorem awaitsKey_step {t t' : Handled M} {a : SessionAct M} {l : List Event}
    (hI : AwaitsKey (sessionOf t)) (h : sessionStep t a = some t')
    (hlog : (sessionOf t').log = (sessionOf t).log ++ l) (hl : ∀ e ∈ l, e.endsWait = false) :
    AwaitsKey (sessionOf t') := by
  cases t with
  | error s => cases h
  | ok s =>
      cases a with
      | command req =>
          obtain rfl := Option.some.inj h
          exact hI
      | handle env =>
          obtain ⟨req, rest, -, rfl⟩ := handle_cases h
          refine awaitsKey_handleNext env rest (fun hdescribe => ?_) (.inl hI)
          obtain ⟨l', hl'⟩ := handleNext_log env req rest s
          rw [List.append_cancel_left (hlog.symm.trans hl')] at hl
          have hno : decide (req.method = ascii "DESCRIBE") = false :=
            hl (.request req) List.mem_cons_self
          exact of_decide_eq_false hno hdescribe
      | pace env now =>
          obtain rfl := Option.some.inj h
          exact awaitsKey_ticks (ticks_pace env now s) hlog hl hI

theorem awaitsKey_restarts {s : Session M} {a : SessionAct M} {t : Handled M}
    (h : sessionStep (.ok s) a = some t) (hrestart : Restarts s a t) :
    AwaitsKey (sessionOf t) := by
  cases a with
  | command req => exact hrestart.elim
  | handle env =>
      obtain ⟨req, rest, hq, hplay, hinit, hpaused⟩ := hrestart
      obtain ⟨req', rest', hq', rfl⟩ := handle_cases h
      obtain ⟨rfl, rfl⟩ := List.cons.inj (hq.symm.trans hq')
      exact awaitsKey_handleNext env rest (by rw [hplay]; decide) (.inr ⟨hplay, hinit, hpaused⟩)
  | pace env now =>
      obtain rfl := Option.some.inj h
      obtain ⟨l, hlog, hl⟩ := hrestart
      obtain ⟨_, _, _, _, -, -, -, heq⟩ := (ticks_pace env now s).sought hlog hl
      change AwaitsKey (s.pace env now)
      rw [heq]
      exact .inr ⟨rfl, rfl⟩

/-- **Decoding always starts again on a key frame.** From any state of a session: after a fresh
    PLAY, a Scale PLAY or a tick at the end of the source, and any run without a DESCRIBE in
    which no frame is sent, the next tick that sends one sends a key frame that no tick held
    before, and sets `wall_start_` and `loop_video_offset_` from it. -/
theorem restart_on_key (s u : Session M) (a : SessionAct M) (as : List (SessionAct M))
    (t₀ : Handled M) (env : Env M) (now : Int) (vp : VideoPacket) (l l' : List Event)
    (hstep : sessionStep (.ok s) a = some t₀) (hrestart : Restarts s a t₀)
    (hrun : Lts.run sessionStep t₀ as = some (.ok u)) (hlog : u.log = (sessionOf t₀).log ++ l)
    (hl : ∀ e ∈ l, e.endsWait = false) (hlog' : (u.pace env now).log = u.log ++ l')
    (hsend : .sending vp ∈ l') :
    u.pendingVp = none ∧ StartsOn now vp l' (u.pace env now) := by
  have hwait : AwaitsKey u :=
    Lts.run_events (fun t : Handled M => (sessionOf t).log)
      (I := fun _ t => AwaitsKey (sessionOf t)) (fun _ _ _ => log_step)
      (fun _ _ _ _ _ hI h hlog hl => awaitsKey_step hI h hlog hl)
      (awaitsKey_restarts hstep hrestart) hrun hlog hl
  exact startsOn_ticks (ticks_pace env now u) hlog' hsend hwait

/-- DESCRIBE and SETUP of the clip are handled and PLAY is pushed. -/
def beforePlay : List (SessionAct (MediaSource PacketList Unit)) :=
  exchange (describeRequest "rtsp://h/a.mp4") ++
    exchange (setupRequest "RTP/AVP/TCP;unicast;interleaved=0-1") ++ [.command playRequest]

/-- The session is READY with a PLAY to handle, and the tick after it sends the clip's frame. -/
def startsClip (s : Session (MediaSource PacketList Unit)) : Bool :=
  match sessionStep (.ok s) (.handle oneFile) with
  | some (.ok u) =>
      decide (s.state = .ready ∧ s.cmdQueue.map (·.method) = [ascii "PLAY"] ∧
        (u.pace oneFile 1).log = u.log ++ (u.pace oneFile 1).log.drop u.log.length ∧
        .sending clipFrame ∈ (u.pace oneFile 1).log.drop u.log.length)
  | _ => false

theorem restart_on_key_clip : ∃ s u l,
    Lts.run sessionStep (.ok client) beforePlay = some (.ok s) ∧
      sessionStep (.ok s) (.handle oneFile) = some (.ok u) ∧
      (u.pace oneFile 1).log = u.log ++ l ∧ .sending clipFrame ∈ l ∧
      StartsOn 1 clipFrame l (u.pace oneFile 1) := by
  have hrun : (Lts.run sessionStep (.ok client) beforePlay).map
      (fun t => (Except.isOk t, startsClip (sessionOf t))) = some (true, true) := by
    decide +kernel
  obtain ⟨t, ht, hends⟩ := Option.map_eq_some_iff.mp hrun
  obtain ⟨hok, hstarts⟩ := Prod.mk.inj hends
  cases t with
  | error s => cases hok
  | ok s =>
      change startsClip s = true at hstarts
      unfold startsClip at hstarts
      split at hstarts
      · next u hu =>
          obtain ⟨hstate, hq, hlog, hsend⟩ := of_decide_eq_true hstarts
          obtain ⟨req, rest, hqueue, -⟩ := handle_cases hu
          rw [hqueue, List.map_cons] at hq
          have hrestart : Restarts s (.handle oneFile) (.ok u) :=
            ⟨req, rest, hqueue, (List.cons.inj hq).1, by rw [hstate]; decide,
              by rw [hstate]; decide⟩
          exact ⟨s, u, _, ht, hu, hlog, hsend, (restart_on_key s u (.handle oneFile) [] (.ok u)
            oneFile 1 clipFrame [] _ hu hrestart rfl (List.append_nil _).symm
            (fun _ he => nomatch he) hlog hsend).2⟩
      · cases hstarts

end RtspServer
