/-
  The RTP headers of a session over its whole life. Each track counts its own packets from 0 on,
  whatever happens in between: a seek, a pause, another source, another transport, a packet that is
  built and then dropped because the outbox is full or the sender was not set up. So a receiver
  that sees a gap in the sequence numbers of a track has missed exactly that many packets.

  `stamps_of_emits` is one tick, by induction over the packets it sends; a request stamps nothing.
-/
import RtspServer.Server.FirstPackets
import RtspServer.Server.Protocol

namespace RtspServer

open ByteString Session RTPPacket

variable {M : Type}

/-- The packets of the track that were built, also those that went nowhere. -/
def builtPackets (track : Track) (log : List Event) : List Bytes :=
  log.filterMap (Event.built track)

/-- The payload type of a track. -/
def payloadTypeOf : Track → Nat
  | .video => 96
  | .audio => 97

/-- The `k`-th packet of a track: its header, a payload that fits a datagram for video, and the
    marker on every packet of audio. -/
def Stamped (track : Track) (ssrc : UInt32) (k : Nat) (p : Bytes) : Prop :=
  ∃ f, parse p = some f ∧ f.seq = UInt16.ofNat k ∧ f.ssrc = ssrc ∧
    f.payloadType = payloadTypeOf track ∧ (track = .video → f.payload.length ≤ kMtu) ∧
    (track = .audio → f.marker = true)

/-- The synchronization source of a track. -/
def ssrcOf (track : Track) (s : Session M) : UInt32 :=
  match track with
  | .video => s.ssrc
  | .audio => s.audioSsrc

/-- The sequence number of the next packet of a track. -/
def seqNext (track : Track) (s : Session M) : UInt16 :=
  match track with
  | .video => s.rtpSeq
  | .audio => s.audioRtpSeq

/-- Every packet is stamped, and the counters of the tracks are where they are to be. -/
structure Stamps (ssrc : Track → UInt32) (s : Session M) : Prop where
  source : ∀ track, ssrcOf track s = ssrc track
  next : ∀ track, seqNext track s = UInt16.ofNat (builtPackets track s.log).length
  packets : ∀ track k p, (builtPackets track s.log)[k]? = some p → Stamped track (ssrc track) k p

theorem builtPackets_append (track : Track) (l l' : List Event) :
    builtPackets track (l ++ l') = builtPackets track l ++ builtPackets track l' :=
  List.filterMap_append ..

theorem builtPackets_nil {track : Track} {l : List Event} (h : ∀ e ∈ l, e.packetTrack = none) :
    builtPackets track l = [] := by
  refine List.filterMap_eq_nil_iff.mpr fun e he => ?_
  have hnone := h e he
  cases e with
  | interleaved | datagram | dropped => cases hnone
  | request | response | sought | anchored | timed | sending => cases track <;> rfl

/-- A packet belongs to one track. -/
theorem built_other {track track' : Track} {e : Event} {p : Bytes} (h : e.built track = some p)
    (hne : track' ≠ track) : e.built track' = none := by
  cases e with
  | interleaved τ | datagram τ | dropped τ =>
      cases track <;> cases track' <;> cases τ <;> first | exact absurd rfl hne | rfl | cases h
  | request | response | sought | anchored | timed | sending => cases track' <;> rfl

/-- What is sent is part of what is built. -/
theorem emitted_sublist_built (track : Track) (log : List Event) :
    (emittedPackets track log).Sublist (builtPackets track log) := by
  induction log with
  | nil => exact .slnil
  | cons e log ih =>
      by_cases hdrop : ∃ rtp, e = .dropped track rtp
      · obtain ⟨rtp, rfl⟩ := hdrop
        show (emittedPackets track log).Sublist _
        have hbuilt : (Event.dropped track rtp).built track = some rtp := by
          cases track <;> rfl
        rw [builtPackets, List.filterMap_cons_some hbuilt]
        exact ih.cons rtp
      · have heq : e.emitted track = e.built track :=
          emitted_eq_built fun rtp h => hdrop ⟨rtp, h⟩
        rw [emittedPackets, builtPackets, List.filterMap_cons, List.filterMap_cons, heq]
        split
        · exact ih
        · exact ih.cons_cons _

/-! ## One step -/

/-- The counters and the packets are left alone. -/
theorem Stamps.of_same {ssrc : Track → UInt32} {s s' : Session M} (h : Stamps ssrc s)
    (hcounters : numbering s' = numbering s) {l : List Event} (hlog : s'.log = s.log ++ l)
    (hl : ∀ e ∈ l, e.packetTrack = none) : Stamps ssrc s' := by
  obtain ⟨⟨hseq, hssrc⟩, haseq, hassrc⟩ : ((s'.rtpSeq = s.rtpSeq) ∧ s'.ssrc = s.ssrc) ∧
      s'.audioRtpSeq = s.audioRtpSeq ∧ s'.audioSsrc = s.audioSsrc := by
    simpa [numbering] using hcounters
  have hpackets : ∀ track, builtPackets track s'.log = builtPackets track s.log := by
    intro track
    rw [hlog, builtPackets_append, builtPackets_nil hl, List.append_nil]
  refine ⟨fun track => ?_, fun track => ?_, fun track => ?_⟩
  · rw [← h.source track]
    cases track with
    | video => exact hssrc
    | audio => exact hassrc
  · rw [hpackets, ← h.next track]
    cases track with
    | video => exact hseq
    | audio => exact haseq
  · rw [hpackets]
    exact h.packets track

/-- A packet of the track is built with the next number. -/
theorem Stamps.built {ssrc : Track → UInt32} {s s' : Session M} (h : Stamps ssrc s) {track : Track}
    {e : Event} {p : Bytes} (hlog : s'.log = s.log ++ [e]) (hbuilt : e.built track = some p)
    (hsource : ∀ track, ssrcOf track s' = ssrcOf track s)
    (hnext : ∀ track', seqNext track' s' =
      if track' = track then seqNext track' s + 1 else seqNext track' s)
    (hp : Stamped track (ssrc track) (builtPackets track s.log).length p) : Stamps ssrc s' := by
  have hpackets : ∀ track', builtPackets track' s'.log =
      builtPackets track' s.log ++ if track' = track then [p] else [] := by
    intro track'
    rw [hlog, builtPackets_append]
    split
    · next heq => rw [heq, builtPackets, builtPackets, List.filterMap_cons_some hbuilt]; rfl
    · next hne => rw [builtPackets, builtPackets, List.filterMap_cons_none (built_other hbuilt hne)]; rfl
  refine ⟨fun track' => (hsource track').trans (h.source track'), fun track' => ?_,
    fun track' k q hq => ?_⟩
  · rw [hnext, hpackets, h.next track', List.length_append]
    split
    · rw [List.length_singleton, UInt16.ofNat_add]
      rfl
    · rw [List.length_nil, Nat.add_zero]
  · rw [hpackets] at hq
    by_cases hk : k < (builtPackets track' s.log).length
    · rw [List.getElem?_append_left hk] at hq
      exact h.packets track' k q hq
    · rw [List.getElem?_append_right (by omega)] at hq
      split at hq
      · next heq =>
          obtain rfl := heq
          obtain ⟨hlt, rfl⟩ := List.getElem?_eq_some_iff.mp hq
          have hlast : k = (builtPackets track' s.log).length := by
            rw [List.length_singleton] at hlt
            omega
          rw [List.getElem_singleton, hlast]
          exact hp
      · cases hq

/-- A video packet. -/
theorem stamps_sendVideoRTP {ssrc : Track → UInt32} {s : Session M} (h : Stamps ssrc s)
    (env : Env M) {payload : Bytes} (ts : UInt32) (marker : Bool) (hlen : payload.length ≤ kMtu) :
    Stamps ssrc (s.sendVideoRTP env payload ts marker) := by
  obtain ⟨loads, close, e, heq, he⟩ := sendVideoRTP_spec env payload ts marker s
  have hbuilt : e.built .video = some _ := he
  rw [heq]
  refine h.built rfl hbuilt (fun track' => ?_) (fun track' => ?_) ?_
  · cases track' <;> rfl
  · cases track' <;> rfl
  · exact ⟨_, parse_build .., h.next .video, h.source .video, rfl, fun _ => hlen,
      fun haudio => nomatch haudio⟩

/-- An audio packet, or none if there is no data. -/
theorem stamps_sendOneAudio {ssrc : Track → UInt32} {s : Session M} (h : Stamps ssrc s)
    (env : Env M) (ap : AudioPacket) : Stamps ssrc (s.sendOneAudio env ap) := by
  by_cases hdata : ap.data = []
  · rw [sendOneAudio, if_pos hdata]
    exact h
  · obtain ⟨loads, close, e, heq, he⟩ : ∃ loads close e, s.sendOneAudio env ap =
        { s with audioRtpSeq := s.audioRtpSeq + 1, loads := loads, closeAfterWrite := close
                 log := s.log ++ [e] } ∧
        e.built .audio = some (build (audioPayload ap.data) (toByte audioPayloadType) s.audioRtpSeq
          ap.rtpTimestamp s.audioSsrc true) := by
      unfold sendOneAudio sendAudioRTP pushTCPFrame sendDatagram
      rw [if_neg hdata]
      dsimp only
      repeat' split
      all_goals exact ⟨_, _, _, rfl, rfl⟩
    rw [heq]
    refine h.built rfl he (fun track' => ?_) (fun track' => ?_) ?_
    · cases track' <;> rfl
    · cases track' <;> rfl
    · exact ⟨_, parse_build .., h.next .audio, h.source .audio, rfl,
        fun hvideo => absurd hvideo (by decide), fun _ => rfl⟩

variable [IMediaSource M]

/-- What one tick sends. -/
theorem stamps_of_emits {ssrc : Track → UInt32} {env : Env M} {s s' : Session M}
    (h : Emits env s s') (hs : Stamps ssrc s) : Stamps ssrc s' := by
  induction h with
  | refl => exact hs
  | notes _ hn ih =>
      obtain ⟨l, hlog, hnote⟩ := hn.log
      have hcounters := congrArg
        (fun w : Wire => ((w.rtpSeq, w.ssrc), w.audioRtpSeq, w.audioSsrc)) hn.wire
      exact ih.of_same hcounters hlog fun e he => packetTrack_of_isNote (hnote e he)
  | video _ payload ts marker hlen ih => exact stamps_sendVideoRTP ih env ts marker hlen
  | audio _ ap _ ih => exact stamps_sendOneAudio ih env ap

theorem stamps_step {ssrc : Track → UInt32} {t t' : Handled M} {a : SessionAct M}
    (h : Stamps ssrc (sessionOf t) ∧ (sessionOf t).Described) (hs : sessionStep t a = some t') :
    Stamps ssrc (sessionOf t') ∧ (sessionOf t').Described := by
  cases t with
  | error s => cases hs
  | ok s =>
      obtain ⟨hstamps, hd⟩ := h
      cases a with
      | command req =>
          obtain rfl := Option.some.inj hs
          exact ⟨hstamps.of_same rfl (List.append_nil _).symm (by simp), hd⟩
      | handle env =>
          simp only [sessionStep] at hs
          split at hs
          · cases hs
          · next req rest hq =>
              obtain rfl := Option.some.inj hs
              have hpop : Stamps ssrc ({ s with cmdQueue := rest }.emit (.request req)) :=
                hstamps.of_same rfl rfl (by simp [Event.packetTrack])
              have hd' : ({ s with cmdQueue := rest }.emit (.request req)).Described := hd
              rcases obeys_handleRequest env req hd' with ⟨s', hres, hobeys⟩ | ⟨s', hres, hbefore⟩
              · rw [handleNext, hres]
                obtain ⟨l, resp, hlog, hsilent, -, -⟩ := hobeys.log
                rw [List.append_assoc] at hlog
                refine ⟨hpop.of_same hobeys.counters hlog fun e he => ?_, hobeys.described hd'⟩
                rcases List.mem_append.mp he with he | he
                · exact (hsilent e he).2
                · rw [List.mem_singleton.mp he]
                  rfl
              · rw [handleNext, hres]
                obtain ⟨l, hlog, hsilent⟩ := hbefore.log
                exact ⟨hpop.of_same hbefore.counters hlog fun e he => (hsilent e he).2,
                  hbefore.described hd'⟩
      | pace env now =>
          obtain rfl := Option.some.inj hs
          exact ⟨stamps_of_emits (emits_pace env now s).1 hstamps,
            (streams_pace env now s).described hd⟩

/-- **The headers of a session.** In every run, whatever is requested and wherever the packets go,
    the `k`-th packet that is built of a track carries the sequence number `k` modulo 2^16, the
    SSRC that the track was given when the session was made, and its payload type; what is sent is a
    subsequence. -/
theorem packets_numbered (clientIp mediaRoot sessionId : Bytes) (ssrc audioSsrc : UInt32)
    {as : List (SessionAct M)} {t : Handled M}
    (h : Lts.run sessionStep (.ok (Session.new clientIp mediaRoot sessionId ssrc audioSsrc)) as =
      some t) (track : Track) :
    (∀ k p, (builtPackets track (sessionOf t).log)[k]? = some p →
      Stamped track (match track with | .video => ssrc | .audio => audioSsrc) k p) ∧
      (emittedPackets track (sessionOf t).log).Sublist (builtPackets track (sessionOf t).log) := by
  refine ⟨?_, emitted_sublist_built track _⟩
  refine (Lts.run_stable (I := fun t => Stamps (fun track => match track with
    | .video => ssrc
    | .audio => audioSsrc) (sessionOf t) ∧ (sessionOf t).Described)
    (fun _ _ _ hI hs => stamps_step hI hs) ⟨⟨?_, ?_, ?_⟩, ?_⟩ h).1.packets track
  · intro track
    cases track <;> rfl
  · intro track
    cases track <;> rfl
  · intro track k p hp
    cases hp
  · intro hsome
    cases hsome

/-- The first packet of the clip. -/
theorem packets_numbered_clip : ∃ t p,
    Lts.run sessionStep (.ok client) (playRun ++ [.pace oneFile 1]) = some t ∧
      (builtPackets .video (sessionOf t).log)[0]? = some p ∧ Stamped .video 1 0 p := by
  have hrun : (Lts.run sessionStep (.ok client) (playRun ++ [.pace oneFile 1])).map
      (fun t => ((builtPackets .video (sessionOf t).log)[0]?).isSome) = some true := by
    decide +kernel
  obtain ⟨t, ht, hsome⟩ := Option.map_eq_some_iff.mp hrun
  obtain ⟨p, hp⟩ := Option.isSome_iff_exists.mp hsome
  exact ⟨t, p, ht, hp, (packets_numbered _ _ _ _ _ ht .video).1 0 p hp⟩

end RtspServer
