/-
  What the answer to a SETUP prints and what the session then uses. A Transport header is text:
  `std::stoi` reads an `int`, the answer prints an `int` again, but a frame has one byte for its
  channel and `setupUDP` takes 16 bits. The port is narrowed before it is printed, the channel
  only when a frame is built, and the second port of the client is printed with one bit more than
  a port has.

  `setup_answers_what_is_used`: for every SETUP answered 200, which channels and which ports come
  back as they were asked for, and are used.
-/
import RtspServer.Server.TrackTransport

namespace RtspServer

open ByteString Decimal Session IMediaSource

variable {M : Type}

/-! ## Numbers in a Transport header -/

/-- The number after the first `name` of the header. -/
def firstNumber (name hdr : Bytes) : Option Int :=
  (find hdr name 0).bind fun p => stoi (hdr.drop (p + name.length))

/-- The header contains `interleaved=a-b`. -/
def HasChannels (hdr : Bytes) (a b : Nat) : Prop :=
  ∃ pre da db post, hdr = pre ++ ascii "interleaved=" ++ da ++ ascii "-" ++ db ++ post ∧
    IsDecimal da ∧ IsDecimal db ∧ Ends post ∧ digitsVal da = a ∧ digitsVal db = b

/-- The header contains `client_port=p`, and a `-q` or something else may follow. -/
def HasPort (hdr : Bytes) (p : Nat) : Prop :=
  ∃ pre ds post, hdr = pre ++ ascii "client_port=" ++ ds ++ post ∧ IsDecimal ds ∧ Ends post ∧
    digitsVal ds = p

/-- A number that was read up to a byte that is no digit is the number that stands there. -/
theorem firstNumber_of_cut {name hdr pat : Bytes} {p i : Nat} {v : Int}
    (hp : find hdr name 0 = some p) (hi : find hdr pat (p + name.length) = some i)
    (hpat : ∀ t, pat <+: t → Ends t)
    (hv : stoi (substr hdr (p + name.length) (i - (p + name.length))) = some v) :
    firstNumber name hdr = some v := by
  obtain ⟨hdrop, hpre⟩ := drop_eq_of_find hi
  rw [firstNumber, hp, Option.bind_some, hdrop]
  exact stoi_append hv (hpat _ hpre)

theorem ends_of_prefix {c : UInt8} (hc : isDigit c = false) {t : Bytes} (h : [c] <+: t) :
    Ends t := by
  obtain ⟨u, rfl⟩ := h
  intro d hd
  cases hd
  exact hc

theorem parseChannels_firstNumber {hdr : Bytes} {a b : Nat} {old c : Int × Int}
    (h : HasChannels hdr a b) (hparse : parseChannels hdr old = .ok c) :
    firstNumber (ascii "interleaved=") hdr = some c.1 := by
  obtain ⟨pre, da, db, post, hhdr, -⟩ := h
  have hname : hdr = pre ++ ascii "interleaved=" ++ (da ++ ascii "-" ++ db ++ post) := by
    simpa only [List.append_assoc] using hhdr
  have hdash : hdr = pre ++ ascii "interleaved=" ++ da ++ ascii "-" ++ (db ++ post) := by
    simpa only [List.append_assoc] using hhdr
  obtain ⟨p, -, hple, hp⟩ := find_of_occurs hname (Nat.zero_le _)
  have hlen : p + 12 ≤ (pre ++ ascii "interleaved=" ++ da).length := by
    have h12 : (ascii "interleaved=").length = 12 := rfl
    simp only [List.length_append, h12]
    omega
  obtain ⟨i, -, -, hi⟩ := find_of_occurs hdash hlen
  unfold parseChannels at hparse
  rw [hp] at hparse
  dsimp only at hparse
  rw [hi] at hparse
  dsimp only at hparse
  split at hparse
  · cases hparse
  · next v hv =>
      split at hparse
      · cases hparse
      · cases hparse
        exact firstNumber_of_cut hp hi (fun t => ends_of_prefix (by decide)) hv

theorem wantsTcp_of_hasChannels {hdr : Bytes} {a b : Nat} (h : HasChannels hdr a b) :
    wantsTcp hdr = true := by
  obtain ⟨pre, da, db, post, hhdr, -⟩ := h
  have hname : hdr = pre ++ ascii "interleaved" ++ (ascii "=" ++ da ++ ascii "-" ++ db ++ post) := by
    have hsplit : ascii "interleaved=" = ascii "interleaved" ++ ascii "=" := rfl
    simpa only [List.append_assoc, hsplit] using hhdr
  obtain ⟨p, -, -, hp⟩ := find_of_occurs hname (Nat.zero_le _)
  rw [wantsTcp, hp]
  exact Bool.or_true _

theorem clientPort_firstNumber {hdr text : Bytes} {v : Int}
    (hport : clientPortText hdr = some text) (hv : stoi text = some v) :
    firstNumber (ascii "client_port=") hdr = some v := by
  unfold clientPortText at hport
  split at hport
  · cases hport
  · next p hp =>
      split at hport
      · cases hport
        rw [firstNumber, hp, Option.bind_some]
        exact hv
      · next i hi =>
          cases hport
          rcases Option.or_eq_some_iff.mp hi with hi | ⟨-, hi⟩
          · exact firstNumber_of_cut hp hi (fun t => ends_of_prefix (by decide)) hv
          · exact firstNumber_of_cut hp hi (fun t => ends_of_prefix (by decide)) hv

/-! ## What is printed -/

/-- The RTP channel in the Transport header of the answer. -/
def PrintsChannel (resp : RTSPResponse) (a : Nat) : Prop :=
  ∃ rest, resp.transport =
    ascii "RTP/AVP/TCP;unicast;interleaved=" ++ natDigits a ++ ascii "-" ++ rest

/-- The two ports of the client and the two of the server in it. -/
def PrintsPorts (resp : RTSPResponse) (client client' server server' : Nat) : Prop :=
  resp.transport = ascii "RTP/AVP;unicast;client_port=" ++ natDigits client ++ ascii "-" ++
    natDigits client' ++ ascii ";server_port=" ++ natDigits server ++ ascii "-" ++
    natDigits server'

theorem ends_append {c : UInt8} (hc : isDigit c = false) (t u : Bytes) :
    Ends (c :: t ++ u) := ends_of_prefix hc ⟨t ++ u, rfl⟩

theorem printsChannel_iff {resp : RTSPResponse} {c : Int × Int}
    (h : resp.transport = tcpTransport c) (a : Nat) : PrintsChannel resp a ↔ c.1 = a := by
  unfold PrintsChannel
  rw [h, tcpTransport]
  constructor
  · rintro ⟨rest, heq⟩
    simp only [List.append_assoc] at heq
    exact (toDec_append_inj (w := a) (ends_append (by decide) [] _) (ends_append (by decide) [] _)
      (List.append_cancel_left heq)).1
  · intro ha
    rw [ha]
    exact ⟨toDec c.2, rfl⟩

theorem printsPorts_iff {resp : RTSPResponse} {port srvPort : UInt16}
    (h : resp.transport = udpTransport port srvPort) (client client' server server' : Nat) :
    PrintsPorts resp client client' server server' ↔ port.toNat = client ∧
      port.toNat + 1 = client' ∧ srvPort.toNat = server ∧ (srvPort + 1).toNat = server' := by
  unfold PrintsPorts
  rw [h, udpTransport]
  constructor
  · intro heq
    simp only [List.append_assoc] at heq
    obtain ⟨h1, heq⟩ := natDigits_append_inj (ends_append (by decide) [] _)
      (ends_append (by decide) [] _) (List.append_cancel_left heq)
    obtain ⟨h2, heq⟩ := natDigits_append_inj (ends_append (by decide) (ascii "server_port=") _)
      (ends_append (by decide) (ascii "server_port=") _) (List.append_cancel_left heq)
    obtain ⟨h3, heq⟩ := natDigits_append_inj (ends_append (by decide) [] _)
      (ends_append (by decide) [] _) (List.append_cancel_left heq)
    have hlast := List.append_cancel_left heq
    have h4 := congrArg digitsVal hlast
    rw [digitsVal_natDigits, digitsVal_natDigits] at h4
    exact ⟨h1, h2, h3, h4⟩
  · rintro ⟨rfl, rfl, rfl, rfl⟩
    rfl

/-! ## The frames of a track -/

/-- The channel byte of a frame. -/
def channelOf (frame : Bytes) : Option Nat := frame[1]?.map UInt8.toNat

theorem channelOf_tcpFrame (v : Int) (rtp : Bytes) :
    channelOf (tcpFrame v rtp) = some (v % 256).toNat := by
  have hlt : (v % 256).toNat < 256 := by omega
  rw [channelOf, tcpFrame]
  dsimp only [List.getElem?_cons_succ, List.getElem?_cons_zero, Option.map_some]
  rw [toByte, UInt8.toNat_ofNat', Nat.mod_eq_of_lt hlt]

/-- The RTP channel of the track stays, and the frames of the track carry it. -/
structure CarriesChannel (track : Track) (s s' : Session M) : Prop where
  channel : (s'.channels track).1 = (s.channels track).1
  log : ∃ l, s'.log = s.log ++ l ∧
    ∀ frame, .interleaved track frame ∈ l → channelOf frame = some ((s.channels track).1 % 256).toNat

theorem CarriesChannel.refl (track : Track) (s : Session M) : CarriesChannel track s s :=
  ⟨rfl, [], (List.append_nil _).symm, fun _ he => nomatch he⟩

theorem CarriesChannel.trans {track : Track} {s t u : Session M} (h : CarriesChannel track s t)
    (h' : CarriesChannel track t u) : CarriesChannel track s u := by
  obtain ⟨l, hl, hframes⟩ := h.log
  obtain ⟨l', hl', hframes'⟩ := h'.log
  refine ⟨h'.channel.trans h.channel, l ++ l', by rw [hl', hl, List.append_assoc], fun frame he => ?_⟩
  rcases List.mem_append.mp he with he | he
  · exact hframes frame he
  · rw [hframes' frame he, h.channel]

/-- One event, which is no frame of the track or carries its channel. -/
theorem CarriesChannel.event {track : Track} {s s' : Session M} (e : Event)
    (hchannel : (s'.channels track).1 = (s.channels track).1) (hlog : s'.log = s.log ++ [e])
    (h : ∀ frame, e = .interleaved track frame →
      channelOf frame = some ((s.channels track).1 % 256).toNat) : CarriesChannel track s s' := by
  refine ⟨hchannel, [e], hlog, fun frame he => ?_⟩
  exact h frame (List.mem_singleton.mp he).symm

theorem carriesChannel_send (env : Env M) (track track' : Track) (rtp : Bytes) (s : Session M) :
    CarriesChannel track s (if s.useTcp then s.pushTCPFrame env track' (s.channels track').1 rtp
      else s.sendDatagram track' (s.senderOf track') rtp) := by
  split
  · unfold pushTCPFrame
    split
    · exact .event (.dropped track' rtp) (by cases track <;> rfl) rfl fun _ he => nomatch he
    · refine .event (.interleaved track' _) (by cases track <;> rfl) rfl fun frame he => ?_
      obtain ⟨rfl, rfl⟩ := Event.interleaved.inj he
      exact channelOf_tcpFrame _ rtp
  · unfold sendDatagram
    split
    · exact .event _ (by cases track <;> rfl) rfl fun _ he => nomatch he
    · exact .event _ (by cases track <;> rfl) rfl fun _ he => nomatch he

theorem channels_of_wire {s s' : Session M} (h : wireOf s' = wireOf s) (track : Track) :
    (s'.channels track).1 = (s.channels track).1 := by
  cases track with
  | video => exact congrArg Wire.rtpChannel h
  | audio => exact congrArg Wire.audioRtpChannel h

theorem Emits.carriesChannel [IMediaSource M] {env : Env M} {s s' : Session M} (h : Emits env s s')
    (track : Track) : CarriesChannel track s s' := by
  induction h with
  | refl => exact .refl track s
  | @notes t u _ hn ih =>
      obtain ⟨l, hlog, hnotes⟩ := hn.log
      refine ih.trans ⟨channels_of_wire hn.wire track, l, hlog, fun frame he => ?_⟩
      cases hnotes _ he
  | @video t _ payload ts marker _ ih =>
      have hseq : CarriesChannel track t { t with rtpSeq := t.rtpSeq + 1 } :=
        ⟨by cases track <;> rfl, [], (List.append_nil _).symm, fun _ he => nomatch he⟩
      exact ih.trans (hseq.trans (carriesChannel_send env track .video _ _))
  | @audio t _ ap _ ih =>
      have hseq : CarriesChannel track t { t with audioRtpSeq := t.audioRtpSeq + 1 } :=
        ⟨by cases track <;> rfl, [], (List.append_nil _).symm, fun _ he => nomatch he⟩
      refine ih.trans ?_
      unfold sendOneAudio
      split
      · exact .refl track t
      · exact hseq.trans (carriesChannel_send env track .audio _ _)

/-! ## Requests -/

theorem channels_eq {s s' : Session M} (h : tracksOf s' = tracksOf s) (track : Track) :
    s'.channels track = s.channels track := by
  cases track with
  | video => exact congrArg (fun t : TrackSetup => (t.rtpChannel, t.rtcpChannel)) h
  | audio => exact congrArg (fun t : TrackSetup => (t.audioRtpChannel, t.audioRtcpChannel)) h

theorem channels_setChannels (track : Track) (c : Int × Int) (s : Session M) :
    (s.setChannels track c).channels track = c := by
  cases track <;> rfl

theorem channels_setChannels_of_ne {track track' : Track} (h : track' ≠ track) (c : Int × Int)
    (s : Session M) : (s.setChannels track' c).channels track = s.channels track := by
  cases track <;> cases track' <;> first | rfl | exact absurd rfl h

theorem channels_setSender (track track' : Track) (sender : UdpSender) (s : Session M) :
    (s.setSender track' sender).channels track = s.channels track := by
  cases track <;> cases track' <;> rfl

theorem channels_setupDone (env : Env M) (req : RTSPRequest) (track track' : Track)
    (transport : Bytes) (s : Session M) :
    ((s.setReady track').setupDone env req track' transport).channels track =
      s.channels track := by
  cases track <;> cases track' <;> rfl

theorem senderOf_setupDone (env : Env M) (req : RTSPRequest) (track track' : Track)
    (transport : Bytes) (s : Session M) :
    ((s.setReady track').setupDone env req track' transport).senderOf track =
      s.senderOf track := by
  cases track <;> cases track' <;> rfl

/-- A SETUP of the other track leaves the channels of the track alone. -/
theorem channels_handleSetup_of_ne (env : Env M) {req : RTSPRequest} (s : Session M)
    {track : Track} (h : trackOf req.url ≠ track) :
    (sessionOf (s.handleSetup env req)).channels track = s.channels track := by
  have hends := setupEnds_handleSetup env req s
  have htcp : ∀ c, ({ s with useTcp := true }.setChannels (trackOf req.url) c).channels track =
      s.channels track := fun c =>
    (channels_setChannels_of_ne h c _).trans (by cases track <;> rfl)
  have hudp : ∀ sender, ({ s with useTcp := false }.setSender (trackOf req.url)
      sender).channels track = s.channels track := fun sender =>
    (channels_setSender _ _ _ _).trans (by cases track <;> rfl)
  generalize s.handleSetup env req = t at hends ⊢
  cases hends with
  | refused => cases track <;> rfl
  | badChannels _ _ c => exact htcp c
  | tcp _ _ c => exact (channels_setupDone ..).trans (htcp c)
  | noPort => cases track <;> rfl
  | badPort => cases track <;> rfl
  | noSender => exact Eq.trans (by cases track <;> rfl) (hudp ⟨none⟩)
  | udp => exact (channels_setupDone ..).trans (hudp _)

/-- What a SETUP answered 200 has set up, and what it printed. -/
theorem accepted_cases {env : Env M} {req : RTSPRequest} {s : Session M} {t : Handled M}
    {resp : RTSPResponse} (h : SetupEnds env req s t)
    (hlog : (sessionOf t).log = s.log ++ [.response resp]) (hok : resp.status = 200) :
    (∃ c, wantsTcp (req.header (ascii "transport")) = true ∧
      parseChannels (req.header (ascii "transport")) (s.channels (trackOf req.url)) = .ok c ∧
      (sessionOf t).channels (trackOf req.url) = c ∧ resp.transport = tcpTransport c) ∨
    ∃ v srvPort, wantsTcp (req.header (ascii "transport")) = false ∧
      firstNumber (ascii "client_port=") (req.header (ascii "transport")) = some v ∧
      env.setupUDP s.clientIp (toPort v) = some srvPort ∧
      (sessionOf t).senderOf (trackOf req.url) = some ⟨some (s.clientIp, toPort v)⟩ ∧
      resp.transport = udpTransport (toPort v) srvPort := by
  have hdone : ∀ {transport : Bytes} {u : Session M}, u.log = s.log →
      ((u.setReady (trackOf req.url)).setupDone env req (trackOf req.url) transport).log =
        s.log ++ [.response resp] → resp.transport = transport := by
    intro transport u hu hdone
    have hlog' : ((u.setReady (trackOf req.url)).setupDone env req (trackOf req.url)
        transport).log = s.log ++
          [.response (RTSPResponse.setup env.timestamp req.cseq u.sessionId transport)] := by
      rw [← hu]
      cases trackOf req.url <;> rfl
    rw [answer_eq hdone hlog', transport_setup]
  cases h with
  | refused _ code reason hcode =>
      obtain rfl := answer_eq hlog rfl
      have hstatus : code = 200 := hok
      omega
  | badChannels _ _ c =>
      have hsame := log_setChannels (trackOf req.url) c { s with useTcp := true }
      cases List.self_eq_append_right.mp (hsame.symm.trans hlog)
  | tcp _ htcp c hparse =>
      have hsame := log_setChannels (trackOf req.url) c { s with useTcp := true }
      refine .inl ⟨c, htcp, hparse, ?_, hdone hsame hlog⟩
      exact (channels_setupDone ..).trans (channels_setChannels _ c _)
  | noPort =>
      obtain rfl := answer_eq hlog rfl
      exact absurd hok (by decide : (461 : Int) ≠ 200)
  | badPort => cases List.self_eq_append_right.mp hlog
  | noSender =>
      have hsame := log_setSender (trackOf req.url) ⟨none⟩ { s with useTcp := false }
      obtain rfl := answer_eq hlog (congrArg (· ++ _) hsame)
      exact absurd hok (by decide : (500 : Int) ≠ 200)
  | udp _ hudp text v srvPort hport hstoi hset =>
      have hsame := log_setSender (trackOf req.url) ⟨some (s.clientIp, toPort v)⟩
        { s with useTcp := false }
      refine .inr ⟨v, srvPort, hudp, clientPort_firstNumber hport hstoi, hset, ?_,
        hdone hsame hlog⟩
      exact (senderOf_setupDone ..).trans (senderOf_setSender _ _ _)

/-! ## Runs -/

variable [IMediaSource M]

theorem channel_step {track : Track} {t t' : Handled M} {a : SessionAct M}
    (hC : OtherTrack track t a) (h : sessionStep t a = some t') :
    ((sessionOf t').channels track).1 = ((sessionOf t).channels track).1 := by
  cases t with
  | error s => cases h
  | ok s =>
      cases a with
      | command req =>
          obtain rfl := Option.some.inj h
          cases track <;> rfl
      | handle env =>
          obtain ⟨req, rest, hq, rfl⟩ := handle_cases h
          have hsame : ((sessionOf (s.handleNext env req rest)).channels track).1 =
              (({ s with cmdQueue := rest }.emit (.request req)).channels track).1 := by
            unfold handleNext
            by_cases hsetup : req.method = ascii "SETUP"
            · have hne := hC req (by rw [hq]; rfl) hsetup
              rw [handleRequest_setup env _ hsetup, channels_handleSetup_of_ne env _ hne]
            · rw [channels_eq (tracksOf_handleRequest env _ hsetup)]
          exact hsame.trans (by cases track <;> rfl)
      | pace env now =>
          obtain rfl := Option.some.inj h
          exact ((emits_pace env now s).1.carriesChannel track).channel

/-- The frames of the track that a step sends carry its channel. -/
theorem frame_step {track : Track} {t t' : Handled M} {a : SessionAct M} {l : List Event}
    (h : sessionStep t a = some t') (hlog : (sessionOf t').log = (sessionOf t).log ++ l)
    {frame : Bytes} (hframe : Event.interleaved track frame ∈ l) :
    channelOf frame = some (((sessionOf t).channels track).1 % 256).toNat := by
  cases t with
  | error s => cases h
  | ok s =>
      cases a with
      | command req =>
          obtain rfl := Option.some.inj h
          rw [List.self_eq_append_right.mp hlog] at hframe
          cases hframe
      | handle env =>
          obtain ⟨req, rest, -, rfl⟩ := handle_cases h
          cases handleNext_noPackets env req rest hlog _ hframe
      | pace env now =>
          obtain rfl := Option.some.inj h
          obtain ⟨l', hl', hframes⟩ := ((emits_pace env now s).1.carriesChannel track).log
          obtain rfl := List.append_cancel_left (hlog.symm.trans hl')
          exact hframes frame hframe

/-- A run from this state without a SETUP of the track sends this frame of the track. -/
def SendsFrame (track : Track) (u : Handled M) (frame : Bytes) : Prop :=
  ∃ as a v w l, Lts.run sessionStep u as = some v ∧ sessionStep v a = some w ∧
    (sessionOf w).log = (sessionOf v).log ++ l ∧ Event.interleaved track frame ∈ l ∧
    Lts.Along sessionStep (OtherTrack track) u (as ++ [a])

theorem SendsFrame.channel {track : Track} {u : Handled M} {frame : Bytes}
    (h : SendsFrame track u frame) :
    channelOf frame = some (((sessionOf u).channels track).1 % 256).toNat := by
  obtain ⟨as, a, v, w, l, hv, hw, hlog, hframe, hother⟩ := h
  have hchannel : ((sessionOf v).channels track).1 = ((sessionOf u).channels track).1 :=
    Lts.run_invariant
      (I := fun t : Handled M => ((sessionOf t).channels track).1 = ((sessionOf u).channels track).1)
      (fun _ _ _ hI hC hstep => (channel_step hC hstep).trans hI) rfl
      (Lts.along_append hv hother).1 hv
  rw [← hchannel]
  exact frame_step hw hlog hframe

/-- The answer prints this RTP channel, and every frame of the track up to its next SETUP
    carries it. -/
def AnswersChannel (track : Track) (a : Nat) (resp : RTSPResponse) (u : Handled M) : Prop :=
  PrintsChannel resp a ∧ ∀ frame, SendsFrame track u frame → channelOf frame = some a

/-- A port that a datagram can be sent to. -/
def ValidPort (n : Nat) : Prop := 0 < n ∧ n < 65536

/-- `setupUDP` was given this port, the answer prints it, and it prints valid ports only. -/
def AnswersPorts (track : Track) (p : Nat) (resp : RTSPResponse) (s : Session M) : Prop :=
  ∃ ip port client client' server server', s.senderOf track = some ⟨some (ip, port)⟩ ∧
    PrintsPorts resp client client' server server' ∧ port.toNat = p ∧ client = p ∧
    ValidPort client ∧ ValidPort client' ∧ ValidPort server ∧ ValidPort server'

theorem answersChannel_iff {track : Track} {a : Nat} {resp : RTSPResponse} {u : Handled M}
    {c : Int × Int} (hchannels : (sessionOf u).channels track = c)
    (hprint : resp.transport = tcpTransport c) :
    AnswersChannel track a resp u ↔
      c.1 = a ∧ ((∃ frame, SendsFrame track u frame) → a < 256) := by
  unfold AnswersChannel
  rw [printsChannel_iff hprint]
  refine and_congr_right fun ha => ?_
  have hframe : ∀ frame, SendsFrame track u frame → channelOf frame = some (a % 256) := by
    intro frame hsends
    rw [hsends.channel, hchannels, ha]
    congr 1
  constructor
  · rintro hall ⟨frame, hsends⟩
    have heq := Option.some.inj ((hframe frame hsends).symm.trans (hall frame hsends))
    rw [← heq]
    exact Nat.mod_lt _ (by decide)
  · intro hlt frame hsends
    rw [hframe frame hsends, Nat.mod_eq_of_lt (hlt ⟨frame, hsends⟩)]

omit [IMediaSource M] in
theorem answersPorts_iff {track : Track} {p : Nat} {resp : RTSPResponse} {s : Session M}
    {ip : Bytes} {port srvPort : UInt16}
    (hsender : s.senderOf track = some ⟨some (ip, port)⟩)
    (hprint : resp.transport = udpTransport port srvPort) :
    AnswersPorts track p resp s ↔
      port.toNat = p ∧ 0 < p ∧ p < 65535 ∧ 0 < srvPort.toNat ∧ srvPort.toNat < 65535 := by
  have hsucc : (srvPort + 1).toNat = (srvPort.toNat + 1) % 65536 := UInt16.toNat_add srvPort 1
  have hsrv : srvPort.toNat < 65536 := srvPort.toNat_lt
  unfold AnswersPorts
  constructor
  · rintro ⟨ip', port', client, client', server, server', hs, hprints, hp, hclient, hv⟩
    rw [hsender] at hs
    cases hs
    obtain ⟨h1, h2, h3, h4⟩ := (printsPorts_iff hprint _ _ _ _).mp hprints
    unfold ValidPort at hv
    omega
  · rintro ⟨hp, h0, hlt, hs0, hslt⟩
    refine ⟨ip, port, _, _, _, _, hsender, (printsPorts_iff hprint _ _ _ _).mpr ⟨rfl, rfl, rfl, rfl⟩,
      hp, hp, ?_, ?_, ?_, ?_⟩
    all_goals unfold ValidPort; omega

/-- **A SETUP answers what will be used**, for every state and every SETUP answered 200. With
    `interleaved=a-b` the answer prints `a` and every frame of the track carries it, up to the
    next SETUP of the track, if and only if the first `interleaved=` of the header is followed by
    `a` and `a` fits in a byte, where frames are sent at all. With `client_port=p`, over UDP,
    `setupUDP` is given `p`, `p` is printed and so are valid ports only, if and only if the number
    after the first `client_port=` narrows to `p` and neither `p` nor the local port is 0 or the
    last of the ports. -/
theorem setup_answers_what_is_used (s : Session M) (env : Env M) (req : RTSPRequest)
    (rest : List RTSPRequest) (resp : RTSPResponse) (u : Handled M)
    (hq : s.cmdQueue = req :: rest) (hsetup : req.method = ascii "SETUP")
    (hu : sessionStep (.ok s) (.handle env) = some u)
    (hanswer : (sessionOf u).log = s.log ++ [.request req, .response resp])
    (hok : resp.status = 200) :
    (∀ a b, HasChannels (req.header (ascii "transport")) a b →
      (AnswersChannel (trackOf req.url) a resp u ↔
        firstNumber (ascii "interleaved=") (req.header (ascii "transport")) = some (a : Int) ∧
          ((∃ frame, SendsFrame (trackOf req.url) u frame) → a < 256))) ∧
    ∀ p, HasPort (req.header (ascii "transport")) p →
      wantsTcp (req.header (ascii "transport")) = false →
      (AnswersPorts (trackOf req.url) p resp (sessionOf u) ↔
        (firstNumber (ascii "client_port=") (req.header (ascii "transport"))).map (· % 65536) =
            some (p : Int) ∧ 0 < p ∧ p < 65535 ∧
          ∀ srvPort, env.setupUDP s.clientIp (UInt16.ofNat p) = some srvPort →
            0 < srvPort.toNat ∧ srvPort.toNat < 65535) := by
  have hends : SetupEnds env req ({ s with cmdQueue := rest }.emit (.request req)) u := by
    have hu' : u = s.handleNext env req rest := by
      simp only [sessionStep, hq, Option.some.injEq] at hu
      exact hu.symm
    rw [hu', handleNext, handleRequest_setup env _ hsetup]
    exact setupEnds_handleSetup env req _
  have hlog : (sessionOf u).log =
      ({ s with cmdQueue := rest }.emit (.request req)).log ++ [.response resp] :=
    hanswer.trans (List.append_assoc s.log [.request req] [.response resp]).symm
  refine ⟨fun a b hhas => ?_, fun p _ hudp => ?_⟩
  · rcases accepted_cases hends hlog hok with
      ⟨c, -, hparse, hchannels, hprint⟩ | ⟨_, _, hudp, -⟩
    · rw [answersChannel_iff hchannels hprint, parseChannels_firstNumber hhas hparse,
        Option.some.injEq]
    · rw [wantsTcp_of_hasChannels hhas] at hudp
      cases hudp
  · rcases accepted_cases hends hlog hok with
      ⟨_, htcp, -⟩ | ⟨v, srvPort, -, hnum, hset, hsender, hprint⟩
    · rw [hudp] at htcp
      cases htcp
    · have hset : env.setupUDP s.clientIp (toPort v) = some srvPort := hset
      rw [answersPorts_iff hsender hprint, hnum, Option.map_some, Option.some.injEq]
      have hport : (toPort v).toNat = p ↔ v % 65536 = (p : Int) := by
        have hlt : (v % 65536).toNat < 65536 := by omega
        rw [toPort, UInt16.toNat_ofNat', Nat.mod_eq_of_lt hlt]
        omega
      rw [hport]
      refine and_congr_right fun hv => and_congr_right fun _ => and_congr_right fun _ => ?_
      have heq : UInt16.ofNat p = toPort v := by
        rw [toPort, hv, Int.toNat_natCast]
      rw [heq, hset]
      constructor
      · rintro hsrv _ ⟨⟩
        exact hsrv
      · exact fun hall => hall srvPort rfl

/-- The answer to the SETUP of the video with this Transport header. -/
def setupAnswer (transport : Bytes) : RTSPResponse :=
  RTSPResponse.setup oneFile.timestamp 3 client.sessionId transport

/-- The SETUP is answered like this, and PLAY and a tick send a frame with this channel byte. -/
def AnswersAndSends (transport : String) (answer : Bytes) (channel : Nat)
    (s : Session (MediaSource PacketList Unit))
    (u v w : Handled (MediaSource PacketList Unit)) : Prop :=
  s.cmdQueue = [setupRequest transport] ∧
    (sessionOf u).log = s.log ++ [.request (setupRequest transport),
      .response (setupAnswer answer)] ∧
    (sessionOf w).log = (sessionOf v).log ++ newEvents v w ∧
    Lts.Along sessionStep (OtherTrack .video) u (exchange playRequest ++ [.pace oneFile 1]) ∧
    (videoFrames (newEvents v w)).head?.bind channelOf = some channel

instance (transport : String) (answer : Bytes) (channel : Nat)
    (s : Session (MediaSource PacketList Unit)) (u v w : Handled (MediaSource PacketList Unit)) :
    Decidable (AnswersAndSends transport answer channel s u v w) :=
  inferInstanceAs (Decidable (_ ∧ _))

theorem AnswersAndSends.sendsFrame {transport : String} {answer : Bytes} {channel : Nat}
    {s : Session (MediaSource PacketList Unit)} {u v w : Handled (MediaSource PacketList Unit)}
    (h : AnswersAndSends transport answer channel s u v w)
    (hv : Lts.run sessionStep u (exchange playRequest) = some v)
    (hw : sessionStep v (.pace oneFile 1) = some w) :
    ∃ frame, SendsFrame .video u frame ∧ channelOf frame = some channel := by
  obtain ⟨-, -, hlog, hother, hchannel⟩ := h
  obtain ⟨frame, hhead, hchannel⟩ := Option.bind_eq_some_iff.mp hchannel
  refine ⟨frame, ⟨_, _, v, w, _, hv, hw, hlog, ?_, hother⟩, hchannel⟩
  obtain ⟨e, he, hframe⟩ := List.mem_filterMap.mp (List.mem_of_mem_head? hhead)
  unfold Event.videoFrame at hframe
  split at hframe
  · cases hframe
    exact he
  · cases hframe

theorem ends_nil : Ends [] := fun _ hc => nomatch hc

/-- Channel 0 is printed and used, and so is port 5000. -/
theorem setup_answers_what_is_used_setups :
    (∃ s u, Lts.run sessionStep (.ok client) (described ++ [.command videoSetup]) = some (.ok s) ∧
      sessionStep (.ok s) (.handle oneFile) = some u ∧ (∃ frame, SendsFrame .video u frame) ∧
      AnswersChannel .video 0 (setupAnswer (tcpTransport (0, 1))) u) ∧
    ∃ s u, Lts.run sessionStep (.ok client) (described ++
        [.command (setupRequest "RTP/AVP;unicast;client_port=5000-5001")]) = some (.ok s) ∧
      sessionStep (.ok s) (.handle oneFile) = some u ∧
      AnswersPorts .video 5000 (setupAnswer (udpTransport 5000 40000)) (sessionOf u) := by
  constructor
  · obtain ⟨s, u, v, w, hs, hu, hv, hw, hP⟩ := statesAround_eq (P := fun s u v w => decide
      (AnswersAndSends "RTP/AVP/TCP;unicast;interleaved=0-1" (tcpTransport (0, 1)) 0 s u v w))
      (show (statesAround described videoSetup (exchange playRequest)).map _ = _ by
        decide +kernel)
    have hsends := of_decide_eq_true hP
    obtain ⟨frame, hframe, -⟩ := hsends.sendsFrame hv hw
    refine ⟨s, u, hs, hu, ⟨frame, hframe⟩, ?_⟩
    refine ((setup_answers_what_is_used s oneFile videoSetup [] _ u hsends.1 rfl hu hsends.2.1
      rfl).1 0 1 ?_).mpr ⟨by decide +kernel, fun _ => by decide⟩
    exact ⟨ascii "RTP/AVP/TCP;unicast;", ascii "0", ascii "1", [], by decide +kernel,
      by decide +kernel, by decide +kernel, ends_nil, rfl, rfl⟩
  · obtain ⟨s, u, v, w, hs, hu, -, -, hP⟩ := statesAround_eq (P := fun s u v w => decide
      (s.cmdQueue = [setupRequest "RTP/AVP;unicast;client_port=5000-5001"] ∧
        s.clientIp = client.clientIp ∧
        (sessionOf u).log = s.log ++ [.request (setupRequest "RTP/AVP;unicast;client_port=5000-5001"),
          .response (setupAnswer (udpTransport 5000 40000))]))
      (show (statesAround described (setupRequest "RTP/AVP;unicast;client_port=5000-5001")
        []).map _ = _ by decide +kernel)
    obtain ⟨hq, hip, hanswer⟩ := of_decide_eq_true hP
    refine ⟨s, u, hs, hu, ?_⟩
    refine ((setup_answers_what_is_used s oneFile _ [] _ u hq rfl hu hanswer rfl).2 5000 ?_
      (by decide +kernel)).mpr ⟨by decide +kernel, by decide, by decide, fun srvPort hsrv => ?_⟩
    · exact ⟨ascii "RTP/AVP;unicast;", ascii "5000", ascii "-5001", by decide +kernel,
        by decide +kernel, ends_of_prefix (by decide) ⟨ascii "5001", rfl⟩, rfl⟩
    · obtain rfl := Option.some.inj hsrv
      decide

/-- Channel 256 is printed, and the frames carry channel 0. -/
theorem channel256_not_used : ∃ s u,
    Lts.run sessionStep (.ok client) (described ++
      [.command (setupRequest "RTP/AVP/TCP;unicast;interleaved=256-257")]) = some (.ok s) ∧
      sessionStep (.ok s) (.handle oneFile) = some u ∧
      (sessionOf u).log = s.log ++
        [.request (setupRequest "RTP/AVP/TCP;unicast;interleaved=256-257"),
          .response (setupAnswer (tcpTransport (256, 257)))] ∧
      (setupAnswer (tcpTransport (256, 257))).status = 200 ∧
      HasChannels ((setupRequest "RTP/AVP/TCP;unicast;interleaved=256-257").header
        (ascii "transport")) 256 257 ∧
      ¬ AnswersChannel .video 256 (setupAnswer (tcpTransport (256, 257))) u := by
  obtain ⟨s, u, v, w, hs, hu, hv, hw, hP⟩ := statesAround_eq (P := fun s u v w => decide
    (AnswersAndSends "RTP/AVP/TCP;unicast;interleaved=256-257" (tcpTransport (256, 257)) 0
      s u v w))
    (show (statesAround described (setupRequest "RTP/AVP/TCP;unicast;interleaved=256-257")
      (exchange playRequest)).map _ = _ by decide +kernel)
  have hsends := of_decide_eq_true hP
  obtain ⟨frame, hframe, hchannel⟩ := hsends.sendsFrame hv hw
  refine ⟨s, u, hs, hu, hsends.2.1, rfl, ?_, fun hanswers => ?_⟩
  · exact ⟨ascii "RTP/AVP/TCP;unicast;", ascii "256", ascii "257", [], by decide +kernel,
      by decide +kernel, by decide +kernel, ends_nil, rfl, rfl⟩
  · cases hchannel.symm.trans (hanswers.2 frame hframe)

end RtspServer
