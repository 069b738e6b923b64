/-
  The packets of a tick. However a tick goes, what it sends is a sequence of calls of
  `sendVideoRTP` and `sendOneAudio` with steps in between that touch nothing of the transport:
  `emits_pace`. A result about every packet a session sends is an induction over `Emits`, with
  one case for each of the two calls. The audio packets are those that the session has at hand
  when the tick begins: the one it holds and those that the source has queued, or queues while it
  reads the next frame.
-/
import RtspServer.Server.PacerMoves
import RtspServer.Server.SendPath

namespace RtspServer

open ByteString Session IMediaSource

variable {M : Type}

/-- What the sending of packets and responses depends on. -/
structure Wire where
  sessionId : Bytes
  useTcp : Bool
  rtpSender : Option UdpSender
  audioRtpSender : Option UdpSender
  rtpChannel : Int
  audioRtpChannel : Int
  rtpSeq : UInt16
  ssrc : UInt32
  audioRtpSeq : UInt16
  audioSsrc : UInt32
  closeAfterWrite : Bool
  loads : Nat

def wireOf (s : Session M) : Wire :=
  { sessionId := s.sessionId, useTcp := s.useTcp, rtpSender := s.rtpSender
    audioRtpSender := s.audioRtpSender, rtpChannel := s.rtpChannel
    audioRtpChannel := s.audioRtpChannel, rtpSeq := s.rtpSeq
    ssrc := s.ssrc, audioRtpSeq := s.audioRtpSeq, audioSsrc := s.audioSsrc
    closeAfterWrite := s.closeAfterWrite, loads := s.loads }

/-- The event is no packet, no request and no response. -/
def Event.isNote : Event → Bool
  | .sought | .anchored _ _ | .timed _ _ | .sending _ => true
  | _ => false

/-- Nothing is sent and the transport is left alone. -/
structure Notes (s s' : Session M) : Prop where
  wire : wireOf s' = wireOf s
  log : ∃ l, s'.log = s.log ++ l ∧ ∀ e ∈ l, e.isNote = true

theorem Notes.of_same {s s' : Session M} (hwire : wireOf s' = wireOf s) (hlog : s'.log = s.log) :
    Notes s s' :=
  ⟨hwire, [], by rw [hlog, List.append_nil], fun _ he => nomatch he⟩

theorem notes_emit {e : Event} (s : Session M) (h : e.isNote = true) : Notes s (s.emit e) := by
  refine ⟨rfl, [e], rfl, fun e' he' => ?_⟩
  rw [List.mem_singleton.mp he']
  exact h

variable [IMediaSource M]

/-- The audio packets that are read one after the other, at most `fuel`. -/
def readAudios : Nat → M → List AudioPacket
  | 0, _ => []
  | fuel + 1, m =>
      match readAudioPacket m with
      | (none, _) => []
      | (some ap, m') => ap :: readAudios fuel m'

/-- The audio packets that the source has queued. -/
def audioQueue (m : M) : List AudioPacket := readAudios (audioQueued m + 1) m

/-- The audio packets that a tick can come to. -/
def Session.audioAtHand (s : Session M) : List AudioPacket :=
  s.pendingAp.toList ++
    match s.mediaSource with
    | none => []
    | some m => audioQueue m ++ audioQueue (readPacket m).2

/-- The session sends packets, with steps that send nothing in between. -/
inductive Emits (env : Env M) (s : Session M) : Session M → Prop where
  | refl : Emits env s s
  | notes {t u : Session M} (h : Emits env s t) (hn : Notes t u) : Emits env s u
  | video {t : Session M} (h : Emits env s t) (payload : Bytes) (ts : UInt32) (marker : Bool)
      (hlen : payload.length ≤ kMtu) : Emits env s (t.sendVideoRTP env payload ts marker)
  | audio {t : Session M} (h : Emits env s t) (ap : AudioPacket) (hap : ap ∈ s.audioAtHand) :
      Emits env s (t.sendOneAudio env ap)

theorem emits_sendPayloads {env : Env M} {s t : Session M} (h : Emits env s t) (ts : UInt32)
    (ps : List (Bytes × Bool)) (hlen : ∀ p ∈ ps, p.1.length ≤ kMtu) :
    Emits env s (sendPayloads env ts ps t) := by
  induction ps generalizing t with
  | nil => exact h
  | cons p rest ih =>
      exact ih (h.video p.1 ts p.2 (hlen p List.mem_cons_self))
        fun q hq => hlen q (List.mem_cons_of_mem p hq)

theorem emits_sendFrame {env : Env M} {s t : Session M} (h : Emits env s t) (source : M)
    (vp : VideoPacket) : Emits env s (t.sendFrame env source vp) := by
  rw [sendFrame, sendNals_eq]
  exact emits_sendPayloads (h.notes (notes_emit t rfl)) _ _ (length_framePayloads _)

omit [IMediaSource M] in
theorem sendOneAudio_source (env : Env M) (ap : AudioPacket) (s : Session M) :
    (s.sendOneAudio env ap).mediaSource = s.mediaSource := by
  obtain ⟨seq, loads, close, tail, heq, -⟩ := sendOneAudio_spec env ap s
  rw [heq]

theorem emits_sendQueuedAudio {env : Env M} {s t : Session M} {source : M} (h : Emits env s t)
    (now rate : Int) (fuel : Nat) (hsource : t.mediaSource = some source)
    (hqueue : ∀ ap ∈ readAudios fuel source, ap ∈ s.audioAtHand) :
    Emits env s (t.sendQueuedAudio env now rate fuel) := by
  induction fuel generalizing t source with
  | zero => exact h
  | succ fuel ih =>
      have hread : ∀ source held,
          Emits env s { t with mediaSource := source, pendingAp := held } :=
        fun source held => h.notes (.of_same rfl rfl)
      rw [readAudios] at hqueue
      rw [sendQueuedAudio, hsource]
      dsimp only
      split
      · exact hread _ t.pendingAp
      · next ap source' hr =>
          rw [hr] at hqueue
          obtain ⟨hap, hrest⟩ := List.forall_mem_cons.mp hqueue
          split
          · refine ih ((hread (some source') t.pendingAp).audio ap hap) ?_ hrest
            exact sendOneAudio_source env ap _
          · exact hread _ _

theorem emits_paceAudio {env : Env M} {s t : Session M} (h : Emits env s t) (now : Int)
    {source : M} (hsource : t.mediaSource = some source)
    (hheld : ∀ ap, t.pendingAp = some ap → ap ∈ s.audioAtHand)
    (hqueue : ∀ ap ∈ audioQueue source, ap ∈ s.audioAtHand) :
    Emits env s (t.paceAudio env now source) := by
  have hsend : ∀ rate, Emits env s (t.sendHeldAudio env now rate) ∧
      (t.sendHeldAudio env now rate).mediaSource = some source := by
    intro rate
    unfold sendHeldAudio
    split
    · exact ⟨h, hsource⟩
    · next ap hap =>
        split
        · refine ⟨(h.audio ap (hheld ap hap)).notes (.of_same rfl rfl), ?_⟩
          exact (sendOneAudio_source env ap t).trans hsource
        · exact ⟨h, hsource⟩
  unfold paceAudio
  dsimp only
  repeat' split
  · exact emits_sendQueuedAudio (hsend _).1 now _ _ (hsend _).2 hqueue
  · exact (hsend _).1
  · exact h

theorem emits_deliver {env : Env M} {s t : Session M} (h : Emits env s t) (now : Int) {source : M}
    (vp : VideoPacket) (hsource : t.mediaSource = some source)
    (hheld : ∀ ap, t.pendingAp = some ap → ap ∈ s.audioAtHand)
    (hqueue : ∀ ap ∈ audioQueue source, ap ∈ s.audioAtHand) :
    Emits env s (t.deliver env now source vp) := by
  have htrack : Emits env s ((t.sendFrame env source vp).trackFrame source vp) :=
    (emits_sendFrame h source vp).notes (.of_same rfl rfl)
  obtain ⟨loads, close, tail, heq, -⟩ := sendFrame_spec env source vp t
  refine emits_paceAudio htrack now ?_ ?_ hqueue
  · rw [heq]
    exact hsource
  · rw [heq]
    exact hheld

theorem Passes.notes {now : Int} {source : M} {s t : Session M} (h : Passes now source s t) :
    Notes s t := by
  cases h
  case ended => exact ⟨rfl, [.sought], rfl, by simp [Event.isNote]⟩
  all_goals exact .of_same rfl rfl

theorem Holds.notes {now : Int} {source source' : M} {vp : VideoPacket} {s t : Session M}
    (h : Holds now source s vp source' t) : Notes s t := by
  cases h <;> exact .of_same rfl rfl

/-- The audio packets at hand once a frame is held. -/
theorem Holds.audioAtHand {now : Int} {source source' : M} {vp : VideoPacket} {s t : Session M}
    (h : Holds now source s vp source' t) (hsource : s.mediaSource = some source) :
    (∀ ap, t.pendingAp = some ap → ap ∈ s.audioAtHand) ∧
      ∀ ap ∈ audioQueue source', ap ∈ s.audioAtHand := by
  unfold Session.audioAtHand
  rw [hsource]
  dsimp only
  have hheld : ∀ ap, s.pendingAp = some ap →
      ap ∈ s.pendingAp.toList ++ (audioQueue source ++ audioQueue (readPacket source).2) :=
    fun ap hap => List.mem_append_left _ (by rw [hap]; exact List.mem_singleton_self ap)
  cases h with
  | kept =>
      exact ⟨hheld, fun ap hap => List.mem_append_right _ (List.mem_append_left _ hap)⟩
  | read _ _ _ _ _ _ hread =>
      refine ⟨hheld, fun ap hap => List.mem_append_right _ (List.mem_append_right _ ?_)⟩
      rw [hread]
      exact hap

/-- A tick that does not stream sends nothing; otherwise it sends packets. -/
theorem emits_pace (env : Env M) (now : Int) (s : Session M) :
    Emits env s (s.pace env now) ∧ (¬ s.Streaming → (s.pace env now).log = s.log) := by
  have h := ticks_pace env now s
  generalize s.pace env now = s' at h ⊢
  cases h with
  | idle =>
      obtain ⟨pause, heq⟩ := notStreaming_eq now s
      rw [heq]
      exact ⟨Emits.refl.notes (.of_same rfl rfl), fun _ => rfl⟩
  | passes hs _ hp => exact ⟨Emits.refl.notes hp.notes, fun hno => absurd hs hno⟩
  | waits hs _ hh =>
      exact ⟨(Emits.refl.notes hh.notes).notes (notes_emit _ rfl), fun hno => absurd hs hno⟩
  | @starts _ source' vp t hs hsource hh =>
      have hanchor : Notes t (t.anchorAt now source' vp) :=
        ⟨rfl, [.anchored vp now], rfl, by simp [Event.isNote]⟩
      obtain ⟨hheld, hqueue⟩ := hh.audioAtHand hsource
      exact ⟨emits_deliver (((Emits.refl.notes hh.notes).notes hanchor).notes (notes_emit _ rfl))
        now vp (hh.facts hsource).1 hheld hqueue, fun hno => absurd hs hno⟩
  | @sends _ source' vp t hs hsource hh =>
      obtain ⟨hheld, hqueue⟩ := hh.audioAtHand hsource
      exact ⟨emits_deliver ((Emits.refl.notes hh.notes).notes (notes_emit _ rfl)) now vp
        (hh.facts hsource).1 hheld hqueue, fun hno => absurd hs hno⟩

end RtspServer
