/-
  What a player gets. A receiver of the video track reads the headers of its packets, takes the
  packets up to the next marker for a frame and puts the frame's NAL units together again
  (`assemble`). One that got every packet of a pass has the frames of the file, in order and with
  their timestamps: on a key frame the stream's SPS and PPS first.

  A tick sends no packet of video or those of one frame (`sends_step`), and the receiver closes
  the frame with its last packet, so what it has grows by that frame: `Shows` is the invariant.
  The frames are those of the file by the invariant of the pass, `InOrder`.
-/
import RtspServer.Lib.Marked
import RtspServer.Server.AudioPayload
import RtspServer.Server.FirstPackets
import RtspServer.Server.PassFrames

namespace RtspServer

open ByteString Session IMediaSource RTPPacket H264Packetizer Marked

/-! ## The receiver -/

/-- A frame as a decoder takes it: its timestamp and its NAL units. -/
abbrev Picture := UInt32 × List Bytes

/-- The frame of the packets up to a marker, all of one time. -/
def readPicture : List Fields → Option Picture
  | [] => none
  | f :: rest =>
      if rest.all (·.timestamp = f.timestamp) then
        (depacketize none ((f :: rest).map (·.payload))).map ((f.timestamp, ·))
      else none

/-- The frames of packets that came in order; none is left open. -/
def assemble (packets : List Bytes) : Option (List Picture) :=
  (packets.mapM parse).bind fun fields =>
    if (groups Fields.marker fields).2 = [] then (groups Fields.marker fields).1.mapM readPicture
    else none

/-- The frame that is sent for a packet of the source. -/
def pictureOf (info : H264StreamInfo) (vp : VideoPacket) : Picture :=
  (vp.rtpTimestamp, accessUnit info vp)

/-- The frames of which there is something to send. -/
def shown (info : H264StreamInfo) (frames : List VideoPacket) : List Picture :=
  (frames.map (pictureOf info)).filter (·.2 ≠ [])

theorem mapM_of_map {α β : Type} {f : α → Option β} {l : List α} {l' : List β}
    (h : l.map f = l'.map some) : l.mapM f = some l' := by
  induction l generalizing l' with
  | nil =>
      obtain rfl := List.map_eq_nil_iff.mp h.symm
      rfl
  | cons a l ih =>
      cases l' with
      | nil => cases h
      | cons b l' =>
          obtain ⟨hhead, htail⟩ := List.cons.inj h
          rw [List.mapM_cons, hhead, ih htail]
          rfl

/-- Frames that are complete and those that come behind them. -/
theorem assemble_append {l l' : List Bytes} {us us' : List Picture} (h : assemble l = some us)
    (h' : assemble l' = some us') : assemble (l ++ l') = some (us ++ us') := by
  obtain ⟨fields, hf, hus⟩ := Option.bind_eq_some_iff.mp h
  obtain ⟨fields', hf', hus'⟩ := Option.bind_eq_some_iff.mp h'
  split at hus
  · next hdone =>
      split at hus'
      · next hdone' =>
          have hboth : (l ++ l').mapM parse = some (fields ++ fields') := by
            rw [List.mapM_append, hf, hf']
            rfl
          unfold assemble
          rw [hboth, Option.bind_some, groups_append hdone, if_pos hdone', List.mapM_append, hus,
            hus']
          rfl
      · cases hus'
  · cases hus

theorem closed_of_lastOnly {fields : List Fields} (hne : fields ≠ [])
    (h : LastOnly (fields.map (·.marker))) : Closed Fields.marker fields := by
  refine ⟨fields.dropLast, fields.getLast hne, (List.dropLast_append_getLast hne).symm,
    fun f hf => ?_, ?_⟩
  · obtain ⟨i, hi, rfl⟩ := List.mem_iff_getElem.mp hf
    rw [List.length_dropLast] at hi
    have hlt : i < fields.length := by omega
    rw [List.getElem_dropLast]
    have hmark := h i (fields[i].marker) (by rw [List.getElem?_map, List.getElem?_eq_getElem hlt]; rfl)
    rw [← Bool.not_eq_true]
    intro htrue
    have hlast := hmark.mp htrue
    rw [List.length_map] at hlast
    omega
  · have hpos := List.length_pos_of_ne_nil hne
    have hmark := h (fields.length - 1) (fields.getLast hne).marker (by
      rw [List.getElem?_map, ← List.getLast?_eq_getElem?, List.getLast?_eq_some_getLast hne]
      rfl)
    rw [List.length_map] at hmark
    exact hmark.mpr (by omega)

/-- The packets of one frame. -/
theorem assemble_frame (ts ssrc : UInt32) (seq : UInt16) {nals : List Bytes}
    (hgood : ∀ nal ∈ nals, GoodNal nal) :
    assemble (rtpPackets ts ssrc seq (framePayloads nals)) =
      some (if nals = [] then [] else [(ts, nals)]) := by
  have hparse := mapM_of_map (parse_rtpPackets ts ssrc seq (framePayloads nals))
  unfold assemble
  rw [hparse, Option.bind_some]
  have hnonempty : ∀ nal ∈ nals, nal ≠ [] := fun nal hnal hnil => by
    have hno := hgood nal hnal
    rw [hnil] at hno
    exact hno
  by_cases hnals : nals = []
  · rw [if_pos hnals, hnals]
    rfl
  · rw [if_neg hnals]
    have hpayloads := framePayloads_ne_nil hnals hnonempty
    have hfields : rtpFields ts ssrc seq (framePayloads nals) ≠ [] := by
      intro hnil
      exact hpayloads (List.mapIdx_eq_nil_iff.mp hnil)
    have hclosed : Closed Fields.marker (rtpFields ts ssrc seq (framePayloads nals)) := by
      refine closed_of_lastOnly hfields ?_
      rw [rtpFields_marker]
      exact framePayloads_lastOnly nals hnonempty
    have hgroups : groups Fields.marker (rtpFields ts ssrc seq (framePayloads nals)) =
        ([rtpFields ts ssrc seq (framePayloads nals)], []) := by
      have happend := groups_closed hclosed []
      rwa [List.append_nil] at happend
    rw [hgroups, if_pos rfl]
    have hpayload := depacketize_framePayloads nals hgood
    rw [← rtpFields_payload ts ssrc seq] at hpayload
    have htime := fun f (hf : f ∈ rtpFields ts ssrc seq (framePayloads nals)) =>
      (mem_rtpFields hf).1
    generalize rtpFields ts ssrc seq (framePayloads nals) = fields at hfields hpayload htime
    obtain ⟨f, rest, rfl⟩ := List.exists_cons_of_ne_nil hfields
    obtain ⟨hhead, hrest⟩ := List.forall_mem_cons.mp htime
    have hall : rest.all (fun g => decide (g.timestamp = f.timestamp)) = true := by
      rw [List.all_eq_true]
      intro g hg
      exact decide_eq_true ((hrest g hg).trans hhead.symm)
    have hframe : readPicture (f :: rest) = some (ts, nals) := by
      rw [readPicture, if_pos hall, hpayload, hhead]
      rfl
    show List.mapM readPicture [f :: rest] = _
    rw [List.mapM_cons, hframe]
    rfl

theorem shown_append (info : H264StreamInfo) (l l' : List VideoPacket) :
    shown info (l ++ l') = shown info l ++ shown info l' := by
  unfold shown
  rw [List.map_append, List.filter_append]

theorem shown_single (info : H264StreamInfo) (vp : VideoPacket) :
    shown info [vp] = if accessUnit info vp = [] then [] else [(vp.rtpTimestamp, accessUnit info vp)] := by
  unfold shown pictureOf
  by_cases h : accessUnit info vp = [] <;> simp [h]

/-- Reads an audio packet: the header, and one access unit as the SDP describes it. -/
def readAudio (rtp : Bytes) : Option (UInt32 × Bytes) :=
  (parse rtp).bind fun f =>
    (AccessUnits.decode ⟨13, 3, 3⟩ f.payload).bind fun (headers, data) =>
      if headers = [⟨data.length, 0⟩] then some (f.timestamp, data) else none

theorem readAudio_audioRtp (ssrc : UInt32) (seq : UInt16) {aps : List AudioPacket}
    (h : ∀ ap ∈ aps, ap.data.length < 8192) :
    (audioRtp ssrc seq aps).map readAudio = aps.map fun ap => some (ap.rtpTimestamp, ap.data) := by
  apply List.ext_getElem?
  intro i
  simp only [audioRtp, List.getElem?_map, List.getElem?_mapIdx, Option.map_map]
  cases hap : aps[i]? with
  | none => rfl
  | some ap =>
      have hlen := h ap (List.mem_of_getElem? hap)
      simp only [Option.map_some, Function.comp, readAudio, parse_build, Option.bind_some,
        decode_audioPayload, Nat.mod_eq_of_lt hlen, if_true]

variable {M : Type} [IMediaSource M]

/-! ## A pass -/

omit [IMediaSource M] in
/-- Events that are not about video. -/
theorem no_video {l : List Event} (h : ∀ e ∈ l, e.isVideo = false) :
    videoPackets l = [] ∧ sentFrames l = [] := by
  refine ⟨List.filterMap_eq_nil_iff.mpr fun e he => videoPacket_of_quiet (h e he),
    sentFrames_nil fun vp hmem => ?_⟩
  have hno := h _ hmem
  cases hno

omit [IMediaSource M] in
theorem Quiet.no_video {s s' : Session M} {l : List Event} (h : Quiet s s')
    (hlog : s'.log = s.log ++ l) : videoPackets l = [] ∧ sentFrames l = [] := by
  obtain ⟨l', hlog', hl⟩ := h.log
  obtain rfl := List.append_cancel_left (hlog.symm.trans hlog')
  exact RtspServer.no_video hl

/-- The video packets of a step: none, or those of one frame of the source. -/
theorem sends_step {t t' : Handled M} {a : SessionAct M} {l : List Event}
    (h : sessionStep t a = some t') (hlog : (sessionOf t').log = (sessionOf t).log ++ l) :
    videoPackets l = [] ∧ sentFrames l = [] ∨
      ∃ source vp ssrc seq, (sessionOf t).mediaSource = some source ∧ sentFrames l = [vp] ∧
        videoPackets l =
          rtpPackets vp.rtpTimestamp ssrc seq (framePayloads (accessUnit (streamInfo source) vp)) := by
  cases t with
  | error s => cases h
  | ok s =>
      cases a with
      | command req =>
          obtain rfl := Option.some.inj h
          obtain rfl := List.self_eq_append_right.mp hlog
          exact .inl ⟨rfl, rfl⟩
      | handle env =>
          obtain ⟨req, rest, -, rfl⟩ := handle_cases h
          have hpop : Quiet { s with cmdQueue := rest }
              ({ s with cmdQueue := rest }.emit (.request req)) := (Quiet.refl _).emit rfl
          exact .inl ((hpop.trans (quiet_handleRequest env req _)).no_video hlog)
      | pace env now =>
          obtain rfl := Option.some.inj h
          rcases still_or_sends env now s with hstill | ⟨source, source', t, vp, hsource, ht, hinfo, heq⟩
          · exact .inl (hstill.toQuiet.no_video hlog)
          · obtain ⟨before, hbefore, hb⟩ := ht.log
            obtain ⟨loads, close, tail, hsend, htail⟩ := sendFrame_spec env source' vp t
            obtain ⟨after, hafter, hf⟩ := ((still_trackFrame source' vp
              (t.sendFrame env source' vp)).trans (still_paceAudio env now source' _)).log
            have hl : l = before ++ (.sending vp :: tail) ++ after := by
              change (s.pace env now).log = s.log ++ l at hlog
              rw [heq, hafter, hsend] at hlog
              dsimp only at hlog
              rw [hbefore, List.append_assoc, List.append_assoc] at hlog
              rw [← List.append_cancel_left hlog, List.append_assoc]
            obtain ⟨hbp, hbs⟩ := no_video hb
            obtain ⟨hap, has⟩ := no_video hf
            refine .inr ⟨source, vp, t.ssrc, t.rtpSeq, hsource, ?_, ?_⟩
            · have hpackets : ∀ e ∈ tail, e.packetTrack.isSome = true := fun e he => by
                rw [packetTrack_of_map htail e he]
                rfl
              rw [hl, sentFrames_append, sentFrames_append, hbs, has, List.nil_append,
                List.append_nil]
              exact sentFrames_sending vp hpackets
            · have hframe : videoPackets (.sending vp :: tail) = _ := videoPackets_append [] htail
              rw [hl, videoPackets, List.filterMap_append, List.filterMap_append]
              change videoPackets before ++ videoPackets (.sending vp :: tail) ++ videoPackets after = _
              rw [hbp, hap, hframe, List.nil_append, List.append_nil, hinfo, nalList_eq]
              rfl

/-- The receiver of the pass has the frames that were sent. -/
def Shows (info : H264StreamInfo) (pass : List Event) : Prop :=
  assemble (videoPackets pass) = some (shown info (sentFrames pass))

/-- The NAL units of a frame are all right, and so are the parameter sets in front of it. -/
def GoodFrame (info : H264StreamInfo) (vp : VideoPacket) : Prop :=
  ∀ nal ∈ info.sps :: info.pps :: vp.nals, nal ≠ [] → GoodNal nal

instance (info : H264StreamInfo) (vp : VideoPacket) : Decidable (GoodFrame info vp) :=
  inferInstanceAs (Decidable (∀ nal ∈ _, _))

theorem shows_step {info : H264StreamInfo} {pass l : List Event} {t t' : Handled M}
    {a : SessionAct M} (hI : Shows info pass) (h : sessionStep t a = some t')
    (hlog : (sessionOf t').log = (sessionOf t).log ++ l)
    (hinfo : ∀ m, (sessionOf t).mediaSource = some m → streamInfo m = info)
    (hgood : ∀ vp ∈ sentFrames l, GoodFrame info vp) : Shows info (pass ++ l) := by
  have hvideo : videoPackets (pass ++ l) = videoPackets pass ++ videoPackets l :=
    List.filterMap_append ..
  unfold Shows
  rw [hvideo, sentFrames_append, shown_append]
  refine assemble_append hI ?_
  rcases sends_step h hlog with ⟨hp, hs⟩ | ⟨source, vp, ssrc, seq, hsource, hs, hp⟩
  · rw [hp, hs]
    rfl
  · rw [hinfo source hsource] at hp
    have hgood := hgood vp (by rw [hs]; exact List.mem_singleton_self vp)
    rw [hp, hs, shown_single]
    exact assemble_frame _ _ _ fun nal hnal =>
      hgood nal (mem_accessUnit hnal).1 (mem_accessUnit hnal).2

/-- The parameter sets of a source are those of its file, however it is read. -/
theorem streamInfo_reads {D B : Type} [FFmpeg D B] {m m' : MediaSource D B}
    {vs : List VideoPacket} {aps : List AudioPacket} (h : Reads m vs aps m') :
    m'.streamInfo = m.streamInfo := by
  induction h with
  | refl => rfl
  | @video m' m'' _ _ vp _ hread ih =>
      have hsame := MediaSource.streamInfo_readPacket m'
      rw [show m'.readPacket = (some vp, m'') from hread] at hsame
      exact hsame.trans ih
  | audio _ hread ih =>
      rw [(MediaSource.readAudioPacket_some hread).2]
      exact ih
  | noAudio _ hread ih =>
      rw [MediaSource.readAudioPacket_none hread]
      exact ih

/-- **A player gets the file.** For every run of a session up to a seek, and every pass behind it
    of which no packet is dropped: a receiver of the video packets that were sent puts together,
    in order and with their timestamps, a prefix of the frames that the source returned since the
    seek, from the first key frame on; and the audio packets that were sent carry a prefix of the
    audio the source returned. -/
theorem player_gets_source {D B : Type} [FFmpeg D B] (clientIp mediaRoot sessionId : Bytes)
    (ssrc audioSsrc : UInt32) (before as : List (SessionAct (MediaSource D B)))
    (s : Session (MediaSource D B)) (a : SessionAct (MediaSource D B))
    (t₀ t : Handled (MediaSource D B)) (m₀ : MediaSource D B) (seek pass : List Event)
    (hbefore : Lts.run sessionStep (.ok (Session.new clientIp mediaRoot sessionId ssrc audioSsrc))
      before = some (.ok s))
    (hseek : sessionStep (.ok s) a = some t₀) (hlog : (sessionOf t₀).log = s.log ++ seek)
    (hsought : .sought ∈ seek) (hsource : (sessionOf t₀).mediaSource = some m₀)
    (hnpt : (sessionOf t₀).nptEnd ≤ 0) (hrun : Lts.run sessionStep t₀ as = some t)
    (hlog' : (sessionOf t).log = (sessionOf t₀).log ++ pass) (hin : InPass pass)
    (hkept : ∀ track rtp, .dropped track rtp ∉ pass)
    (hgood : ∀ vp ∈ sentFrames pass, GoodFrame m₀.streamInfo vp) :
    ∃ m vs aps frames audio, (sessionOf t).mediaSource = some m ∧ Reads m₀ vs aps m ∧
      frames <+: playable vs ∧ audio <+: audible aps ∧
      assemble (emittedPackets .video pass) = some (shown m₀.streamInfo frames) ∧
      ((∀ ap ∈ audio, ap.data.length < 8192) →
        (emittedPackets .audio pass).map readAudio =
          audio.map fun ap => some (ap.rtpTimestamp, ap.data)) := by
  have hup : (sessionOf t₀).TransportUp := transportUp_of_run (Lts.run_snoc hbefore hseek)
  obtain ⟨m, hm, hstart⟩ := InOrder.start (restarted_of_sought hseek hlog hsought) hnpt hup
  obtain rfl := Option.some.inj (hsource.symm.trans hm)
  have hI := Lts.run_events (fun u : Handled (MediaSource D B) => (sessionOf u).log)
    (P := fun e => e.endsPass = false ∧ ∀ vp, e = .sending vp → GoodFrame m₀.streamInfo vp)
    (I := fun l u => InOrder m₀ (sessionOf t₀).audioSsrc (sessionOf t₀).audioRtpSeq l (sessionOf u) ∧
      Shows m₀.streamInfo l)
    (fun _ _ _ => log_step) (fun l u b u' l' hI h hlog hl => by
      refine ⟨inOrder_step hI.1 h hlog fun e he => (hl e he).1,
        shows_step hI.2 h hlog (fun m hm => ?_) fun vp hvp => ?_⟩
      · obtain ⟨m', vs, aps, hm', hreads, -⟩ := hI.1.frames
        obtain rfl := Option.some.inj (hm.symm.trans hm')
        exact streamInfo_reads hreads
      · obtain ⟨e, he, heq⟩ := List.mem_filterMap.mp hvp
        refine (hl e he).2 vp ?_
        split at heq
        · obtain rfl := Option.some.inj heq
          rfl
        · cases heq)
    ⟨hstart, rfl⟩ hrun hlog' fun e he => ⟨hin e he, fun vp heq => hgood vp ?_⟩
  · obtain ⟨⟨-, -, m, vs, aps, hm, hreads, hv, ha⟩, hshows⟩ := hI
    obtain ⟨done, haps, hpackets, -⟩ := ha.queue
    refine ⟨m, vs, aps, sentFrames pass, audible done, hm, hreads, hv.sent, ?_, ?_, fun hlen => ?_⟩
    · rw [haps, audible_append]
      exact List.prefix_append _ _
    · rw [emittedPackets_eq_built fun rtp => hkept .video rtp]
      exact hshows
    · rw [emittedPackets_eq_built fun rtp => hkept .audio rtp]
      change (audioPackets pass).map readAudio = _
      rw [hpackets]
      exact readAudio_audioRtp _ _ hlen
  · rw [heq] at he
    exact List.mem_filterMap.mpr ⟨_, he, rfl⟩

/-- The event drops no packet, and a frame it sends is all right. -/
def fine (info : H264StreamInfo) : Event → Bool
  | .dropped _ _ => false
  | .sending vp => decide (GoodFrame info vp)
  | _ => true

/-- The clip of two frames, played over TCP. -/
theorem player_gets_source_inOrder : ∃ s t₀ t pass m₀ m vs aps frames,
    Lts.run sessionStep (.ok client) (untilPlay inOrder) = some (.ok s) ∧
      sessionStep (.ok s) (.handle (machine inOrder)) = some t₀ ∧
      Lts.run sessionStep t₀ (twoTicks inOrder) = some t ∧
      (sessionOf t).log = (sessionOf t₀).log ++ pass ∧
      .anchored (demoFrame (demoPacket 0 0 true) 0) 1 ∈ pass ∧
      (sessionOf t).mediaSource = some m ∧ Reads m₀ vs aps m ∧ frames <+: playable vs ∧
      assemble (emittedPackets .video pass) = some (shown m₀.streamInfo frames) := by
  have hfine : (Lts.run sessionStep (.ok client) (untilPlay inOrder ++ [.handle (machine inOrder)] ++
      twoTicks inOrder)).map (fun t => (sessionOf t).log.all (fine clip.streamInfo)) =
        some true := by
    decide +kernel
  have hinfo : (Lts.run sessionStep (.ok client)
      (untilPlay inOrder ++ [.handle (machine inOrder)])).map
        (fun t => (sessionOf t).mediaSource.map (·.streamInfo)) = some (some clip.streamInfo) := by
    decide +kernel
  obtain ⟨s, t₀, t, seek, pass, m, hs, hseek, hlog, hsought, -, hrun, hlog', hin, -, -, hanchor,
    -⟩ := playsPass_spec plays_inOrder
  have hstart := Lts.run_snoc hs hseek
  have hnpt : (sessionOf t₀).nptEnd ≤ 0 := by
    have hend := nptEnd_inOrder
    rw [hstart] at hend
    exact of_decide_eq_true (Option.some.inj hend)
  rw [hstart] at hinfo
  obtain ⟨m₀, hm₀, hinfo⟩ := Option.map_eq_some_iff.mp (Option.some.inj hinfo)
  rw [Lts.run_append.mpr ⟨t₀, hstart, hrun⟩] at hfine
  have hall : ∀ e ∈ pass, fine m₀.streamInfo e = true := by
    have hlogs : (sessionOf t).log.all (fine clip.streamInfo) = true := Option.some.inj hfine
    rw [hlog', List.all_append, Bool.and_eq_true] at hlogs
    rw [hinfo]
    exact List.all_eq_true.mp hlogs.2
  obtain ⟨m, vs, aps, frames, -, hm, hreads, hprefix, -, hshown, -⟩ :=
    player_gets_source _ _ _ _ _ _ _ s _ t₀ t m₀ seek pass hs hseek hlog hsought hm₀ hnpt hrun hlog'
      hin (fun track rtp hmem => Bool.noConfusion (hall _ hmem)) fun vp hvp => by
        obtain ⟨e, he, heq⟩ := List.mem_filterMap.mp hvp
        split at heq
        · obtain rfl := Option.some.inj heq
          exact of_decide_eq_true (hall _ he)
        · cases heq
  exact ⟨s, t₀, t, pass, m₀, m, vs, aps, frames, hs, hseek, hrun, hlog', hanchor, hm, hreads,
    hprefix, hshown⟩

end RtspServer
