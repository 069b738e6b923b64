/-
  The send path of a video frame: `pacerTick` picks the NAL units, `H264Packetizer` cuts them,
  `RTPPacket` puts the headers in front, `pushTCPFrame` frames the packets.

  A receiver takes the steps back: `deinterleave` removes the framing, `RTPPacket.parse` reads
  the headers, `H264Packetizer.depacketize` puts the NAL units together. `frame_survives`: what
  it gets from a tick that sends a frame over TCP is the frame. The sequence numbers are those
  of a whole session: `numbered_of_run` shows that the video packets a session has built are
  numbered from 0 on, modulo 2^16, in every state it reaches.
-/
import RtspServer.Server.SessionRuns

namespace RtspServer

open ByteString Session RTPPacket H264Packetizer

variable {M : Type}

/-! ## The interleaved stream -/

/-- The packets of an interleaved stream with their channels, as a receiver reads them. -/
def deinterleave : Bytes → Option (List (UInt8 × Bytes))
  | [] => some []
  | dollar :: channel :: l1 :: l0 :: rest =>
      if dollar = 36 ∧ bigEndian [l1, l0] ≤ rest.length then
        ((channel, rest.take (bigEndian [l1, l0])) :: ·) <$>
          deinterleave (rest.drop (bigEndian [l1, l0]))
      else none
  | _ => none
  termination_by bs => bs.length
  decreasing_by
    simp only [List.length_drop, List.length_cons]
    omega

theorem bigEndian_length (n : Nat) (h : n < 65536) :
    bigEndian [(UInt16.ofNat n >>> 8).toUInt8, (UInt16.ofNat n &&& 0xFF).toUInt8] = n := by
  have hlow : (UInt16.ofNat n &&& 0xFF).toNat = n % 256 := by
    rw [UInt16.toNat_and, UInt16.toNat_ofNat', Nat.mod_eq_of_lt h]
    exact Nat.and_two_pow_sub_one_eq_mod n 8
  simp only [bigEndian, List.foldl_cons, List.foldl_nil, UInt16.toNat_toUInt8, hlow,
    UInt16.toNat_shiftRight, UInt16.toNat_ofNat', UInt16.reduceToNat, Nat.shiftRight_eq_div_pow,
    Nat.reduceMod, Nat.reducePow]
  omega

theorem deinterleave_tcpFrame (channel : Int) (rtp rest : Bytes) (h : rtp.length < 65536) :
    deinterleave (tcpFrame channel rtp ++ rest) =
      ((toByte channel, rtp) :: ·) <$> deinterleave rest := by
  unfold tcpFrame
  simp only [List.cons_append]
  rw [deinterleave, bigEndian_length _ h, if_pos ⟨rfl, by simp⟩, List.take_left, List.drop_left]

theorem deinterleave_frames (channel : Int) (packets : List Bytes)
    (h : ∀ p ∈ packets, p.length < 65536) :
    deinterleave (packets.map (tcpFrame channel)).flatten =
      some (packets.map fun p => (toByte channel, p)) := by
  induction packets with
  | nil => rw [List.map_nil, List.flatten_nil, deinterleave]; rfl
  | cons p rest ih =>
      rw [List.map_cons, List.flatten_cons, deinterleave_tcpFrame channel p _ (h p (by simp)),
        ih fun q hq => h q (List.mem_cons_of_mem p hq)]
      rfl

/-! ## The packets of a frame -/

/-- The fields of these packets. -/
def rtpFields (ts ssrc : UInt32) (seq : UInt16) (ps : List (Bytes × Bool)) : List Fields :=
  ps.mapIdx fun i p =>
    { marker := p.2, payloadType := 96, seq := seq + UInt16.ofNat i, timestamp := ts, ssrc := ssrc
      payload := p.1 }

/-- A receiver reads the fields of the packets. -/
theorem parse_rtpPackets (ts ssrc : UInt32) (seq : UInt16) (ps : List (Bytes × Bool)) :
    (rtpPackets ts ssrc seq ps).map parse = (rtpFields ts ssrc seq ps).map some := by
  apply List.ext_getElem?
  intro i
  simp only [rtpPackets, rtpFields, List.getElem?_map, List.getElem?_mapIdx, Option.map_map]
  congr 1
  funext p
  exact parse_build _ _ _ _ _ _

theorem rtpFields_payload (ts ssrc : UInt32) (seq : UInt16) (ps : List (Bytes × Bool)) :
    (rtpFields ts ssrc seq ps).map (·.payload) = ps.map (·.1) := by
  apply List.ext_getElem?
  intro i
  simp only [rtpFields, List.getElem?_map, List.getElem?_mapIdx, Option.map_map]
  rfl

theorem rtpFields_marker (ts ssrc : UInt32) (seq : UInt16) (ps : List (Bytes × Bool)) :
    (rtpFields ts ssrc seq ps).map (·.marker) = ps.map (·.2) := by
  apply List.ext_getElem?
  intro i
  simp only [rtpFields, List.getElem?_map, List.getElem?_mapIdx, Option.map_map]
  rfl

theorem mem_rtpFields {ts ssrc : UInt32} {seq : UInt16} {ps : List (Bytes × Bool)} {f : Fields}
    (h : f ∈ rtpFields ts ssrc seq ps) :
    f.timestamp = ts ∧ f.ssrc = ssrc ∧ f.payloadType = 96 := by
  obtain ⟨i, hi, rfl⟩ := List.mem_mapIdx.mp h
  exact ⟨rfl, rfl, rfl⟩

theorem markNal_fst (lastNal : Bool) (ps : List H264Packetizer.Packet) :
    (markNal lastNal ps).map (·.1) = ps.map (·.payload) := by
  induction ps with
  | nil => rfl
  | cons p rest ih => rw [markNal, List.map_cons, List.map_cons, ih]

/-- The payloads of a frame read back as its NAL units. -/
theorem depacketize_framePayloads (nals : List Bytes) (h : ∀ nal ∈ nals, GoodNal nal) :
    depacketize none ((framePayloads nals).map (·.1)) = some nals := by
  induction nals with
  | nil => rfl
  | cons nal rest ih =>
      rw [framePayloads, List.map_append, markNal_fst,
        depacketize_packetize nal (h nal (by simp)) kMtu (by decide) (by decide),
        ih fun n hn => h n (List.mem_cons_of_mem nal hn)]
      rfl

theorem length_framePayloads (nals : List Bytes) :
    ∀ p ∈ framePayloads nals, p.1.length ≤ kMtu := by
  induction nals with
  | nil => exact fun p hp => nomatch hp
  | cons nal rest ih =>
      intro p hp
      rcases List.mem_append.mp hp with hp | hp
      · have hmem : p.1 ∈ (packetize nal kMtu).map (·.payload) := by
          rw [← markNal_fst rest.isEmpty]
          exact List.mem_map_of_mem hp
        obtain ⟨q, hq, hpayload⟩ := List.mem_map.mp hmem
        rw [← hpayload]
        exact length_packetize nal kMtu (by decide) (by decide) q hq
      · exact ih p hp

/-! ## The marker bit -/

/-- Exactly the last flag is set. -/
def LastOnly (l : List Bool) : Prop := ∀ i b, l[i]? = some b → (b = true ↔ i + 1 = l.length)

theorem LastOnly.append {l l' : List Bool} (hl : ∀ b ∈ l, b = false) (h : LastOnly l')
    (hne : l' ≠ []) : LastOnly (l ++ l') := by
  have hpos := List.length_pos_iff.mpr hne
  intro i b hb
  rw [List.length_append]
  by_cases hi : i < l.length
  · rw [List.getElem?_append_left hi] at hb
    rw [hl b (List.mem_of_getElem? hb)]
    simp only [Bool.false_eq_true, false_iff]
    omega
  · rw [List.getElem?_append_right (by omega)] at hb
    rw [h _ b hb]
    omega

theorem markNal_false (ps : List H264Packetizer.Packet) :
    ∀ b ∈ (markNal false ps).map (·.2), b = false := by
  induction ps with
  | nil => exact fun b hb => nomatch hb
  | cons p rest ih =>
      intro b hb
      rw [markNal, List.map_cons] at hb
      rcases List.mem_cons.mp hb with hb | hb
      · rw [hb, Bool.false_and]
      · exact ih b hb

theorem markNal_true (ps : List H264Packetizer.Packet) :
    LastOnly ((markNal true ps).map (·.2)) := by
  induction ps with
  | nil => exact fun i b hb => nomatch hb
  | cons p rest ih =>
      cases rest with
      | nil =>
          intro i b hb
          match i with
          | 0 =>
              obtain rfl := Option.some.inj hb
              exact ⟨fun _ => rfl, fun _ => rfl⟩
      | cons q rest =>
          refine LastOnly.append (l := [false]) (by simp) ih ?_
          exact List.cons_ne_nil _ _

theorem packetize_ne_nil {nal : Bytes} (h : nal ≠ []) : packetize nal kMtu ≠ [] := by
  match nal, h with
  | b :: data, _ =>
      unfold packetize
      dsimp only
      split
      · exact List.cons_ne_nil _ _
      · next hlong =>
          have hdata : data ≠ [] := by
            intro hnil
            rw [hnil, List.length_singleton] at hlong
            exact hlong (by decide)
          obtain ⟨n, hn⟩ := Nat.exists_eq_succ_of_ne_zero (List.length_pos_iff.mpr hdata).ne'
          rw [hn, fragments_round _ _ _ _ _ _ hdata]
          exact List.cons_ne_nil _ _

theorem framePayloads_ne_nil {nals : List Bytes} (hne : nals ≠ []) (h : ∀ nal ∈ nals, nal ≠ []) :
    framePayloads nals ≠ [] := by
  match nals, hne with
  | nal :: rest, _ =>
      obtain ⟨p, ps, hps⟩ := List.exists_cons_of_ne_nil (packetize_ne_nil (h nal (by simp)))
      rw [framePayloads, hps, markNal]
      exact List.cons_ne_nil _ _

/-- The marker is on exactly the last packet of the frame. -/
theorem framePayloads_lastOnly (nals : List Bytes) (h : ∀ nal ∈ nals, nal ≠ []) :
    LastOnly ((framePayloads nals).map (·.2)) := by
  induction nals with
  | nil => exact fun i b hb => nomatch hb
  | cons nal rest ih =>
      have hrest : ∀ n ∈ rest, n ≠ [] := fun n hn => h n (List.mem_cons_of_mem nal hn)
      rw [framePayloads, List.map_append]
      by_cases hlast : rest = []
      · rw [hlast, framePayloads, List.map_nil, List.append_nil]
        exact markNal_true _
      · have hnot : rest.isEmpty = false := by simpa using hlast
        rw [hnot]
        refine LastOnly.append (markNal_false _) (ih hrest) ?_
        simpa using framePayloads_ne_nil hlast hrest

/-! ## Sending the packets -/

/-- The interleaved frame of the video track that was pushed to `outbox_`. -/
def Event.videoFrame : Event → Option Bytes
  | .interleaved .video frame => some frame
  | _ => none

def videoFrames (log : List Event) : List Bytes := log.filterMap Event.videoFrame

/-- One packet over TCP below the watermark. -/
theorem sendVideoRTP_tcp (env : Env M) (payload : Bytes) (ts : UInt32) (marker : Bool)
    {s : Session M} (htcp : s.useTcp = true)
    (hload : env.outboxLoad s.loads ≤ WriteWake.kOutboxHWM) :
    s.sendVideoRTP env payload ts marker =
      { s with
        rtpSeq := s.rtpSeq + 1, loads := s.loads + 1
        log := s.log ++ [.interleaved .video (tcpFrame s.rtpChannel
          (RTPPacket.build payload (toByte payloadType) s.rtpSeq ts s.ssrc marker))] } := by
  unfold sendVideoRTP pushTCPFrame
  dsimp only
  rw [if_pos htcp, if_neg (Nat.not_lt.mpr hload)]
  rfl

/-- The packets of a frame over TCP below the watermark. -/
theorem sendPayloads_tcp (env : Env M) (ts : UInt32) (ps : List (Bytes × Bool)) {s : Session M}
    (htcp : s.useTcp = true) (hload : ∀ k, env.outboxLoad k ≤ WriteWake.kOutboxHWM) :
    sendPayloads env ts ps s =
      { s with
        rtpSeq := s.rtpSeq + UInt16.ofNat ps.length, loads := s.loads + ps.length
        log := s.log ++ (rtpPackets ts s.ssrc s.rtpSeq ps).map
          fun p => .interleaved .video (tcpFrame s.rtpChannel p) } := by
  induction ps generalizing s with
  | nil => simp [sendPayloads, rtpPackets]
  | cons p rest ih =>
      have hsend := sendVideoRTP_tcp env p.1 ts p.2 htcp (hload s.loads)
      have hnext : (s.sendVideoRTP env p.1 ts p.2).useTcp = true := by rw [hsend]; exact htcp
      change sendPayloads env ts rest (s.sendVideoRTP env p.1 ts p.2) = _
      rw [ih hnext, hsend]
      simp only [seq_succ, List.length_cons, List.append_assoc, List.singleton_append,
        rtpPackets_cons, List.map_cons, Nat.add_assoc, Nat.add_comm 1]

/-! ## The steps of a tick that build no video packet -/

/-- No command is pushed or popped, no video packet built, and the transport stays. -/
structure Still (s s' : Session M) : Prop extends Quiet s s' where
  useTcp : s'.useTcp = s.useTcp
  rtpChannel : s'.rtpChannel = s.rtpChannel

theorem Still.of_same {s s' : Session M} (hqueue : s'.cmdQueue = s.cmdQueue)
    (hseq : s'.rtpSeq = s.rtpSeq) (hssrc : s'.ssrc = s.ssrc) (hlog : s'.log = s.log)
    (htcp : s'.useTcp = s.useTcp) (hch : s'.rtpChannel = s.rtpChannel) : Still s s' :=
  ⟨.of_same hqueue hseq hssrc hlog, htcp, hch⟩

theorem Still.trans {s t u : Session M} (h : Still s t) (h' : Still t u) : Still s u :=
  ⟨h.toQuiet.trans h'.toQuiet, h'.useTcp.trans h.useTcp, h'.rtpChannel.trans h.rtpChannel⟩

theorem Still.emit {s t : Session M} {e : Event} (h : Still s t) (he : e.isVideo = false) :
    Still s (t.emit e) :=
  ⟨h.toQuiet.emit he, h.useTcp, h.rtpChannel⟩

theorem Still.of_tail {s s' : Session M} (tail : List Event) (hqueue : s'.cmdQueue = s.cmdQueue)
    (hseq : s'.rtpSeq = s.rtpSeq) (hssrc : s'.ssrc = s.ssrc) (hlog : s'.log = s.log ++ tail)
    (htail : ∀ e ∈ tail, e.isVideo = false) (htcp : s'.useTcp = s.useTcp)
    (hch : s'.rtpChannel = s.rtpChannel) : Still s s' :=
  ⟨⟨hqueue, hseq, hssrc, tail, hlog, htail⟩, htcp, hch⟩

theorem isVideo_of_audio {e : Event} (h : e.packetTrack = some .audio) : e.isVideo = false := by
  unfold Event.isVideo
  split
  · cases h
  · cases h
  · cases h
  · cases h
  · rfl

variable [IMediaSource M]

open IMediaSource

theorem still_paceAudio (env : Env M) (now : Int) (source : M) (s : Session M) :
    Still s (s.paceAudio env now source) := by
  obtain ⟨seq, loads, close, tail, held, n, heq, htail⟩ := paceAudio_spec env now source s
  rw [heq]
  exact .of_tail tail rfl rfl rfl rfl (fun e he => isVideo_of_audio (htail e he)) rfl rfl

theorem still_trackFrame (source : M) (vp : VideoPacket) (s : Session M) :
    Still s (s.trackFrame source vp) :=
  .of_same rfl rfl rfl rfl rfl rfl

theorem still_anchor (now : Int) (source : M) (vp : VideoPacket) (s : Session M) :
    Still s (s.anchor now source vp) := by
  rcases anchor_cases now source vp s with ⟨-, gate, audio, heq⟩ | ⟨-, gate, heq⟩
  · rw [heq]
    exact .of_tail [.anchored vp now] rfl rfl rfl rfl (by simp [Event.isVideo]) rfl rfl
  · rw [heq]
    exact .of_same rfl rfl rfl rfl rfl rfl

/-- Steps 3 to 5 build no packet, and a frame that is held afterwards is one of the stream. -/
theorem still_fetches {source : M} {s t : Session M} (h : Fetches source s t)
    (hsource : s.mediaSource = some source) :
    Still s t ∧ ∀ vp source', t.pendingVp = some vp → t.mediaSource = some source' →
      streamInfo source' = streamInfo source := by
  cases h with
  | gated ht =>
      obtain ⟨w, p, g, rfl⟩ := ht
      exact ⟨.of_same rfl rfl rfl rfl rfl rfl, fun vp source' hvp _ => nomatch hvp⟩
  | held ht =>
      obtain ⟨w, p, g, rfl⟩ := ht
      refine ⟨.of_same rfl rfl rfl rfl rfl rfl, fun vp source' _ hs => ?_⟩
      rw [Option.some.inj (hsource.symm.trans hs)]
  | ended ht =>
      obtain ⟨w, p, g, rfl⟩ := ht
      refine ⟨Still.emit ?_ rfl, fun vp source' hvp _ => nomatch hvp⟩
      exact .of_same rfl rfl rfl rfl rfl rfl
  | read ht hread =>
      obtain ⟨w, p, g, rfl⟩ := ht
      refine ⟨.of_same rfl rfl rfl rfl rfl rfl, fun vp source' _ hs => ?_⟩
      have hinfo := streamInfo_readPacket source
      rw [hread] at hinfo
      rw [← Option.some.inj hs, hinfo]

/-- What a tick does after the commands: it builds no video packet, or it sends one frame of the
    stream. -/
theorem still_or_sends (env : Env M) (now : Int) (s : Session M) :
    Still s (s.pace env now) ∨
      ∃ source source' t vp, s.mediaSource = some source ∧ Still s t ∧
        streamInfo source' = streamInfo source ∧
        s.pace env now =
          ((t.sendFrame env source' vp).trackFrame source' vp).paceAudio env now source' := by
  rcases pace_cases env now s with ⟨pause, pending, -, heq⟩ | ⟨source, t, hsource, -, -, ht, heq⟩
  · left
    rw [heq]
    exact .of_same rfl rfl rfl rfl rfl rfl
  · obtain ⟨hstill, hinfo⟩ := still_fetches ht hsource
    rw [heq]
    rcases pacePending_cases env now t with heq | ⟨source', vp, u, hsource', hvp, hu, heq⟩
    · left
      rw [heq]
      exact hstill
    · have htimed : Still s u := by
        rw [hu]
        exact (hstill.trans (still_anchor now source' vp t)).emit rfl
      rcases heq with heq | heq
      · left
        rw [heq]
        exact htimed
      · right
        exact ⟨source, source', u, vp, hsource, htimed, hinfo vp source' hvp hsource', heq⟩

/-! ## Sequence numbers over runs -/

/-- The sequence number of a packet. -/
def seqOf (p : Bytes) : Option UInt16 := (parse p).map (·.seq)

/-- The video packets built so far are numbered from 0 on, and the counter is the next one. -/
structure Numbered (ssrc : UInt32) (s : Session M) : Prop where
  ssrc : s.ssrc = ssrc
  next : s.rtpSeq = UInt16.ofNat (videoPackets s.log).length
  seqs : ∀ k p, (videoPackets s.log)[k]? = some p → seqOf p = some (UInt16.ofNat k)

section

omit [IMediaSource M]

theorem videoPacket_of_quiet {e : Event} (h : e.isVideo = false) : e.videoPacket = none := by
  unfold Event.videoPacket
  split
  · cases h
  · cases h
  · cases h
  · rfl

theorem videoPackets_quiet {s s' : Session M} (h : Quiet s s') :
    videoPackets s'.log = videoPackets s.log := by
  obtain ⟨tail, hlog, hquiet⟩ := h.log
  unfold videoPackets
  rw [hlog, List.filterMap_append,
    List.filterMap_eq_nil_iff.mpr fun e he => videoPacket_of_quiet (hquiet e he), List.append_nil]

theorem Numbered.quiet {ssrc : UInt32} {s s' : Session M} (h : Numbered ssrc s)
    (hq : Quiet s s') : Numbered ssrc s' := by
  have hsame := videoPackets_quiet hq
  refine ⟨hq.ssrc.trans h.ssrc, ?_, ?_⟩
  · rw [hq.rtpSeq, hsame]
    exact h.next
  · rw [hsame]
    exact h.seqs

/-- The packets of a frame come behind those before. -/
theorem videoPackets_append (log : List Event) {vp : VideoPacket} {tail : List Event}
    {packets : List Bytes} (h : tail.map Event.videoPacket = packets.map some) :
    videoPackets (log ++ .sending vp :: tail) = videoPackets log ++ packets := by
  unfold videoPackets
  rw [List.filterMap_append, List.filterMap_cons_none rfl]
  congr 1
  simpa [List.filterMap_map] using congrArg (List.filterMap id) h

end

theorem Numbered.sendFrame {ssrc : UInt32} {s : Session M} (h : Numbered ssrc s) (env : Env M)
    (source : M) (vp : VideoPacket) : Numbered ssrc (s.sendFrame env source vp) := by
  obtain ⟨loads, close, tail, hsend, htail⟩ := sendFrame_spec env source vp s
  have hpackets : videoPackets (s.log ++ .sending vp :: tail) = _ :=
    videoPackets_append s.log htail
  rw [hsend]
  refine ⟨h.ssrc, ?_, ?_⟩
  · dsimp only
    rw [hpackets, List.length_append, rtpPackets, List.length_mapIdx, UInt16.ofNat_add, h.next]
  · dsimp only
    intro k p hp
    rw [hpackets] at hp
    by_cases hk : k < (videoPackets s.log).length
    · rw [List.getElem?_append_left hk] at hp
      exact h.seqs k p hp
    · rw [List.getElem?_append_right (by omega), rtpPackets, List.getElem?_mapIdx] at hp
      obtain ⟨q, -, rfl⟩ := Option.map_eq_some_iff.mp hp
      unfold seqOf
      rw [parse_build, h.next, ← UInt16.ofNat_add, Nat.add_sub_cancel' (by omega)]
      rfl

theorem numbered_pace {ssrc : UInt32} (env : Env M) (now : Int) {s : Session M}
    (h : Numbered ssrc s) : Numbered ssrc (s.pace env now) := by
  obtain hstill | ⟨source, source', t, vp, -, ht, -, hpace⟩ := still_or_sends env now s
  · exact h.quiet hstill.toQuiet
  · rw [hpace]
    exact ((h.quiet ht.toQuiet).sendFrame env source' vp).quiet
      ((still_trackFrame source' vp _).trans (still_paceAudio env now source' _)).toQuiet

theorem numbered_step {ssrc : UInt32} {t t' : Handled M} {a : SessionAct M}
    (h : Numbered ssrc (sessionOf t)) (hs : sessionStep t a = some t') :
    Numbered ssrc (sessionOf t') := by
  cases t with
  | error s => cases hs
  | ok s =>
      cases a with
      | command req =>
          obtain rfl := Option.some.inj hs
          exact ⟨h.ssrc, h.next, h.seqs⟩
      | handle env =>
          simp only [sessionStep] at hs
          split at hs
          · cases hs
          · next req rest hq =>
              obtain rfl := Option.some.inj hs
              have hpop : Numbered ssrc { s with cmdQueue := rest } := ⟨h.ssrc, h.next, h.seqs⟩
              refine (hpop.quiet ((Quiet.refl _).emit (e := .request req) rfl)).quiet ?_
              exact quiet_handleRequest env req _
      | pace env now =>
          obtain rfl := Option.some.inj hs
          exact numbered_pace env now h

/-- The video packets of a session are numbered from 0 on, in every run. -/
theorem numbered_of_run (clientIp mediaRoot sessionId : Bytes) (ssrc audioSsrc : UInt32)
    {as : List (SessionAct M)} {t : Handled M}
    (h : Lts.run sessionStep (.ok (Session.new clientIp mediaRoot sessionId ssrc audioSsrc)) as =
      some t) : Numbered ssrc (sessionOf t) := by
  refine Lts.run_stable (I := fun t => Numbered ssrc (sessionOf t)) ?_ ⟨rfl, rfl, ?_⟩ h
  · intro u a u' hI hs
    exact numbered_step hI hs
  · intro k p hp
    rw [show videoPackets (sessionOf (.ok (Session.new (M := M) clientIp mediaRoot sessionId ssrc
      audioSsrc))).log = [] from rfl] at hp
    cases hp

/-! ## A frame survives the send path -/

/-- `nal_unit_type`. -/
def nalType (nal : Bytes) : Nat := nal.head?.elim 0 fun b => b.toNat % 32

/-- What a receiver is to get of a frame: on a key frame the stream's SPS and PPS first and none
    in band; no empty NAL unit. -/
def accessUnit (info : H264StreamInfo) (vp : VideoPacket) : List Bytes :=
  (if vp.isKeyFrame then [info.sps, info.pps].filter (· ≠ []) else []) ++
    vp.nals.filter fun nal =>
      nal ≠ [] ∧ ¬ (vp.isKeyFrame = true ∧ (nalType nal = 7 ∨ nalType nal = 8))

/-- The receiver's view of a byte stream: it is the interleaved packets of this channel, all of
    them of this frame, and they make up these NAL units. -/
def Delivers (channel : UInt8) (vp : VideoPacket) (ssrc : UInt32) (nals packets : List Bytes)
    (stream : Bytes) : Prop :=
  ∃ fields : List Fields, deinterleave stream = some (packets.map fun p => (channel, p)) ∧
    packets.map parse = fields.map some ∧
    depacketize none (fields.map (·.payload)) = some nals ∧
    (∀ f ∈ fields, f.timestamp = vp.rtpTimestamp ∧ f.ssrc = ssrc ∧ f.payloadType = 96) ∧
    LastOnly (fields.map (·.marker))

section

omit [IMediaSource M]

theorem typeBits (b : UInt8) :
    ((b &&& 0x1F == 7) = decide (b.toNat % 32 = 7)) ∧
      ((b &&& 0x1F == 8) = decide (b.toNat % 32 = 8)) := by
  revert b
  apply forall_byte
  decide +kernel

theorem nalList_eq (info : H264StreamInfo) (vp : VideoPacket) :
    nalList info vp = accessUnit info vp := by
  unfold nalList accessUnit
  congr 1
  apply List.filter_congr
  intro nal _
  match nal with
  | [] => rfl
  | b :: rest =>
      obtain ⟨h7, h8⟩ := typeBits b
      dsimp only
      rw [h7, h8]
      cases vp.isKeyFrame <;> simp [nalType]

theorem mem_accessUnit {info : H264StreamInfo} {vp : VideoPacket} {nal : Bytes}
    (h : nal ∈ accessUnit info vp) : nal ∈ info.sps :: info.pps :: vp.nals ∧ nal ≠ [] := by
  unfold accessUnit at h
  rcases List.mem_append.mp h with h | h
  · split at h
    · obtain ⟨hmem, hne⟩ := List.mem_filter.mp h
      refine ⟨?_, by simpa using hne⟩
      rcases List.mem_pair.mp hmem with rfl | rfl <;> simp
    · cases h
  · obtain ⟨hmem, hcond⟩ := List.mem_filter.mp h
    simp only [decide_eq_true_eq] at hcond
    exact ⟨by simp [hmem], hcond.1⟩

/-- The packets of a frame, framed for TCP, deliver it. -/
theorem delivers_frames (vp : VideoPacket) (ssrc : UInt32) (seq : UInt16) (channel : Int)
    (nals : List Bytes) (hgood : ∀ nal ∈ nals, GoodNal nal) :
    Delivers (toByte channel) vp ssrc nals (rtpPackets vp.rtpTimestamp ssrc seq (framePayloads nals))
      ((rtpPackets vp.rtpTimestamp ssrc seq (framePayloads nals)).map (tcpFrame channel)).flatten := by
  refine ⟨rtpFields vp.rtpTimestamp ssrc seq (framePayloads nals),
    deinterleave_frames channel _ ?_, parse_rtpPackets _ _ _ _, ?_, fun f hf => mem_rtpFields hf, ?_⟩
  · intro p hp
    obtain ⟨i, hi, rfl⟩ := List.mem_mapIdx.mp hp
    have hlen := length_framePayloads nals _ (List.getElem_mem hi)
    rw [kMtu] at hlen
    simp only [RTPPacket.build, List.length_append, List.length_cons, List.length_nil]
    omega
  · rw [rtpFields_payload]
    exact depacketize_framePayloads nals hgood
  · rw [rtpFields_marker]
    refine framePayloads_lastOnly nals fun nal hnal hnil => ?_
    have := hgood nal hnal
    rw [hnil] at this
    exact this

end

section

omit [IMediaSource M]

theorem videoFrame_of_quiet {e : Event} (h : e.isVideo = false) : e.videoFrame = none := by
  unfold Event.videoFrame
  split
  · cases h
  · rfl

/-- The frames among the events of a tick that sends. -/
theorem videoFrames_sent {before after : List Event} {vp : VideoPacket} {channel : Int}
    {packets : List Bytes} (h : ∀ e ∈ before ++ after, e.isVideo = false) :
    videoFrames (before ++ .sending vp ::
      packets.map (fun p => .interleaved .video (tcpFrame channel p)) ++ after) =
        packets.map (tcpFrame channel) := by
  have hnone : ∀ e ∈ before ++ after, e.videoFrame = none := fun e he => videoFrame_of_quiet (h e he)
  unfold videoFrames
  rw [List.filterMap_append, List.filterMap_append,
    List.filterMap_eq_nil_iff.mpr fun e he => hnone e (List.mem_append_left _ he),
    List.filterMap_eq_nil_iff.mpr fun e he => hnone e (List.mem_append_right _ he),
    List.nil_append, List.append_nil, List.filterMap_cons_none rfl, List.filterMap_map]
  exact congrFun (List.filterMap_eq_map (f := tcpFrame channel)) packets

/-- The packets among them. -/
theorem videoPackets_sent {log before after : List Event} {vp : VideoPacket} {channel : Int}
    {packets : List Bytes} (h : ∀ e ∈ before ++ after, e.isVideo = false) :
    videoPackets (log ++ (before ++ .sending vp ::
      packets.map (fun p => .interleaved .video (tcpFrame channel p)) ++ after)) =
        videoPackets log ++ packets := by
  have hnone : ∀ e ∈ before ++ after, e.videoPacket = none :=
    fun e he => videoPacket_of_quiet (h e he)
  unfold videoPackets
  rw [List.filterMap_append, List.filterMap_append, List.filterMap_append,
    List.filterMap_eq_nil_iff.mpr fun e he => hnone e (List.mem_append_left _ he),
    List.filterMap_eq_nil_iff.mpr fun e he => hnone e (List.mem_append_right _ he),
    List.nil_append, List.append_nil, List.filterMap_cons_none rfl, List.filterMap_map]
  congr 1
  exact (congrFun (List.filterMap_eq_map (f := id)) packets).trans (List.map_id packets)

end

/-- The new part of the log when the tick sends a frame over TCP below the watermark: nothing
    about video, the mark, the frames with the packets, nothing about video. -/
theorem pace_sends {env : Env M} {now : Int} {s : Session M} {source : M} {vp : VideoPacket}
    {tail : List Event} (htcp : s.useTcp = true) (hsource : s.mediaSource = some source)
    (hload : ∀ k, env.outboxLoad k ≤ WriteWake.kOutboxHWM)
    (htail : (s.pace env now).log = s.log ++ tail) (hsend : .sending vp ∈ tail) :
    ∃ before after, (∀ e ∈ before ++ after, e.isVideo = false) ∧
      tail = before ++ .sending vp ::
        (rtpPackets vp.rtpTimestamp s.ssrc s.rtpSeq
          (framePayloads (accessUnit (streamInfo source) vp))).map
            (fun p => .interleaved .video (tcpFrame s.rtpChannel p)) ++ after := by
  obtain hstill | ⟨source₀, source', t, vp', hs, ht, hinfo, hpace⟩ := still_or_sends env now s
  · obtain ⟨tail', hlog, hquiet⟩ := hstill.log
    rw [hlog] at htail
    obtain rfl := List.append_cancel_left htail
    exact absurd (hquiet _ hsend) (by simp [Event.isVideo])
  · obtain rfl := Option.some.inj (hsource.symm.trans hs)
    obtain ⟨before, hbefore, hquiet⟩ := ht.log
    have hframe : (t.sendFrame env source' vp').log = t.log ++ .sending vp' ::
        (rtpPackets vp'.rtpTimestamp s.ssrc s.rtpSeq
          (framePayloads (accessUnit (streamInfo source) vp'))).map
            (fun p => .interleaved .video (tcpFrame s.rtpChannel p)) := by
      have hmark : (t.emit (.sending vp')).useTcp = true := ht.useTcp.trans htcp
      rw [sendFrame, sendNals_eq, sendPayloads_tcp env _ _ hmark hload, hinfo, nalList_eq,
        ← ht.ssrc, ← ht.rtpSeq, ← ht.rtpChannel]
      simp [Session.emit]
    obtain ⟨after, hafter, hquiet'⟩ := ((still_trackFrame source' vp'
      (t.sendFrame env source' vp')).trans (still_paceAudio env now source' _)).log
    rw [hpace, hafter, hframe, hbefore, List.append_assoc, List.append_assoc] at htail
    obtain rfl := List.append_cancel_left htail
    have hvp : vp = vp' := by
      rcases List.mem_append.mp hsend with h | h
      · exact absurd (hquiet _ h) (by simp [Event.isVideo])
      · rcases List.mem_append.mp h with h | h
        · simpa using h
        · exact absurd (hquiet' _ h) (by simp [Event.isVideo])
    rw [hvp]
    refine ⟨before, after, fun e he => ?_, (List.append_assoc _ _ _).symm⟩
    rcases List.mem_append.mp he with he | he
    · exact hquiet e he
    · exact hquiet' e he

/-- **A frame survives the send path.** In every state that a session reaches: when `pacerTick`
    sends a frame over TCP with `outbox_bytes_` not above the watermark, then what it pushed for
    the video track, read by a receiver, is the frame: the stream's SPS and PPS first on a key
    frame, then the NAL units of the frame that are not empty, without SPS and PPS in band on a
    key frame. All packets carry the timestamp of the frame, the session's SSRC and payload type
    96, the last one and only it has the marker, and their sequence numbers continue those of
    the packets before, from 0 at the start of the session, modulo 2^16. -/
theorem frame_survives (clientIp mediaRoot sessionId : Bytes) (ssrc audioSsrc : UInt32)
    (as : List (SessionAct M)) (s s₁ s' : Session M) (env : Nat → Env M) (now : Int) (source : M)
    (vp : VideoPacket) (tail : List Event)
    (hrun : Lts.run sessionStep (.ok (Session.new clientIp mediaRoot sessionId ssrc audioSsrc)) as =
      some (.ok s))
    (hcommands : drainCommands env 0 s.cmdQueue s = .ok (true, s₁))
    (htick : s.pacerTick env now = .ok s')
    (htail : s'.log = s₁.log ++ tail) (hsend : .sending vp ∈ tail)
    (htcp : s₁.useTcp = true) (hsource : s₁.mediaSource = some source)
    (hload : ∀ k, (env s.cmdQueue.length).outboxLoad k ≤ WriteWake.kOutboxHWM)
    (hgood : ∀ nal ∈ (streamInfo source).sps :: (streamInfo source).pps :: vp.nals,
      nal ≠ [] → GoodNal nal) :
    ∃ packets, Delivers (toByte s₁.rtpChannel) vp ssrc (accessUnit (streamInfo source) vp) packets
        (videoFrames tail).flatten ∧
      videoPackets s'.log = videoPackets s₁.log ++ packets ∧ Numbered ssrc s' := by
  obtain ⟨bs, hdrain⟩ : ∃ bs, Lts.run sessionStep (.ok s) bs = some (.ok s₁) := by
    have := drainCommands_run env 0 s s.cmdQueue rfl
    rwa [hcommands] at this
  have hnum : Numbered ssrc s₁ :=
    numbered_of_run _ _ _ _ _ (Lts.run_append.mpr ⟨_, hrun, hdrain⟩)
  have hpace : s₁.pace (env s.cmdQueue.length) now = s' := by
    rw [pacerTick, hcommands] at htick
    exact Except.ok.inj htick
  have hnum' := numbered_pace (env s.cmdQueue.length) now hnum
  rw [hpace] at hnum'
  rw [← hpace] at htail
  obtain ⟨before, after, hquiet, heq⟩ := pace_sends htcp hsource hload htail hsend
  refine ⟨rtpPackets vp.rtpTimestamp s₁.ssrc s₁.rtpSeq
    (framePayloads (accessUnit (streamInfo source) vp)), ?_, ?_, hnum'⟩
  · rw [heq, videoFrames_sent hquiet, ← hnum.ssrc]
    exact delivers_frames vp _ _ _ _ fun nal hnal =>
      hgood nal (mem_accessUnit hnal).1 (mem_accessUnit hnal).2
  · rw [← hpace, htail, heq, videoPackets_sent hquiet]

def playRequest : RTSPRequest :=
  { method := ascii "PLAY", url := ascii "rtsp://h/a.mp4", version := ascii "RTSP/1.0"
    headers := (∅ : HeaderMap).insert (ascii "cseq") (ascii "4"), body := [] }

/-- DESCRIBE, SETUP over TCP and PLAY of the clip. -/
def playRun : List (SessionAct (MediaSource PacketList Unit)) :=
  exchange (describeRequest "rtsp://h/a.mp4") ++
    exchange (setupRequest "RTP/AVP/TCP;unicast;interleaved=0-1") ++ exchange playRequest

/-- The one frame of the clip. -/
def clipFrame : VideoPacket :=
  { nals := [[0x65, 0x88]]
    pktData := { streamIndex := 0, pts := 0, dts := 0, key := true, duration := 3600
                 data := [0, 0, 0, 1, 0x65, 0x88] }
    rtpTimestamp := 0, isKeyFrame := true, duration := 3600 }

/-- The next tick of the session sends the frame of the clip over TCP. -/
def sendsClip (s : Session (MediaSource PacketList Unit)) : Bool :=
  match s.pacerTick (fun _ => oneFile) 1 with
  | .error _ => false
  | .ok s' =>
      decide (s.cmdQueue = [] ∧ s.useTcp = true ∧
        s.mediaSource.map streamInfo = some (streamInfo clip) ∧
        s'.log = s.log ++ s'.log.drop s.log.length ∧
        .sending clipFrame ∈ s'.log.drop s.log.length)

theorem frame_survives_clip : ∃ s s' tail packets,
    Lts.run sessionStep (.ok client) playRun = some (.ok s) ∧
      s.pacerTick (fun _ => oneFile) 1 = .ok s' ∧ s'.log = s.log ++ tail ∧
      Delivers (toByte s.rtpChannel) clipFrame 1 (accessUnit (streamInfo clip) clipFrame) packets
        (videoFrames tail).flatten := by
  have hrun : (Lts.run sessionStep (.ok client) playRun).map
      (fun t => (Except.isOk t, sendsClip (sessionOf t))) = some (true, true) := by
    decide +kernel
  obtain ⟨t, ht, hok⟩ := Option.map_eq_some_iff.mp hrun
  obtain ⟨hisOk, hsends⟩ := Prod.mk.inj hok
  cases t with
  | error s => cases hisOk
  | ok s =>
      change sendsClip s = true at hsends
      unfold sendsClip at hsends
      cases htick : s.pacerTick (fun _ => oneFile) 1 with
      | error s' => rw [htick] at hsends; cases hsends
      | ok s' =>
          rw [htick] at hsends
          obtain ⟨hqueue, htcp, hinfo, htail, hsend⟩ := of_decide_eq_true hsends
          obtain ⟨source, hsource, hinfo⟩ := Option.map_eq_some_iff.mp hinfo
          have hgood : ∀ nal ∈ (streamInfo source).sps :: (streamInfo source).pps :: clipFrame.nals,
              nal ≠ [] → GoodNal nal := by
            rw [hinfo]
            decide +kernel
          obtain ⟨packets, hdeliver, -⟩ := frame_survives _ _ _ _ _ playRun s s s'
            (fun _ => oneFile) 1 source clipFrame _ ht (by rw [hqueue]; rfl) htick htail hsend htcp
            hsource (fun _ => Nat.zero_le _) hgood
          rw [hinfo] at hdeliver
          exact ⟨s, s', _, packets, ht, htick, htail, hdeliver⟩

end RtspServer
