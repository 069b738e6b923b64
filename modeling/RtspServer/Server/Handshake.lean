/-
  A client that does what the description asks for: DESCRIBE, a SETUP of each track it wants at the
  control URL of its section, PLAY. `handshake`: over interleaved channels or over UDP, whatever the
  session was doing before and whenever the pacer ticks in between, all requests are answered 200 and
  the session then streams, each track on the transport of its SETUP.

  The one condition on the URL is that it does not contain the control attribute of the audio track:
  `trackOf` looks for it anywhere in the URL of a SETUP (`trackOf_controlUrl`).
-/
import RtspServer.Server.FileDescription
import RtspServer.Server.Protocol
import RtspServer.Server.FirstPackets
import RtspServer.Server.SetupAnswer

namespace RtspServer

open ByteString Decimal Session IMediaSource

/-! ## The track of a control URL -/

/-- A pattern without the separator lies on one side of it. -/
theorem infix_append_cons {pat s t : Bytes} {c : UInt8} (hc : c ∉ pat) (h : pat <:+: s ++ c :: t) :
    pat <:+: s ∨ pat <:+: t := by
  obtain ⟨u, v, huv⟩ := h
  rcases List.append_eq_append_iff.mp huv with ⟨w, hs, hv⟩ | ⟨w, hu, hct⟩
  · exact .inl ⟨u, w, hs.symm⟩
  · cases w with
    | nil => exact .inl ⟨u, [], by rw [List.append_nil, hu, List.append_nil]⟩
    | cons d w =>
        obtain ⟨rfl, ht⟩ := List.cons.inj hct
        rcases List.append_eq_append_iff.mp hu with ⟨x, hsx, hpat⟩ | ⟨x, hux, hwx⟩
        · exact absurd (hpat ▸ List.mem_append_right x List.mem_cons_self) hc
        · cases x with
          | nil =>
              rw [List.nil_append] at hwx
              exact absurd (hwx ▸ List.mem_cons_self) hc
          | cons e x =>
              obtain ⟨rfl, hw⟩ := List.cons.inj hwx
              exact .inr ⟨x, v, by rw [ht, hw]; rfl⟩

/-- The control attribute of a track in the description. -/
def Track.control : Track → Bytes
  | .video => ascii "trackID=0"
  | .audio => ascii "trackID=1"

/-- The URL of a track: its control attribute behind the Content-Base of the description. -/
def controlUrl (url : Bytes) (track : Track) : Bytes := url ++ ascii "/" ++ track.control

/-- The control URLs lead to their tracks unless the URL itself names the audio track. -/
theorem trackOf_controlUrl (url : Bytes) :
    (∀ track, trackOf (controlUrl url track) = track) ↔ ¬ ascii "trackID=1" <:+: url := by
  have hfound : ∀ track, trackOf (controlUrl url track) = .audio ↔
      ascii "trackID=1" <:+: url ++ 47 :: track.control := by
    intro track
    unfold trackOf controlUrl
    rw [find_zero, List.append_assoc]
    by_cases h : (indexOf (ascii "trackID=1") (url ++ (ascii "/" ++ track.control))).isSome = true
    · rw [if_pos h]
      exact ⟨fun _ => indexOf_isSome_iff.mp h, fun _ => rfl⟩
    · rw [if_neg h]
      exact ⟨fun hv => absurd hv (by decide), fun hin => absurd (indexOf_isSome_iff.mpr hin) h⟩
  constructor
  · rintro h ⟨u, v, huv⟩
    have haudio := (hfound .video).mpr
      ⟨u, v ++ 47 :: Track.control .video, by rw [← huv]; simp only [List.append_assoc]⟩
    rw [h .video] at haudio
    cases haudio
  · intro h track
    cases track with
    | video =>
        cases htrack : trackOf (controlUrl url .video) with
        | video => rfl
        | audio =>
            rcases infix_append_cons (by decide) ((hfound .video).mp htrack) with hin | hin
            · exact absurd hin h
            · exact absurd hin (by decide)
    | audio =>
        refine (hfound .audio).mpr ⟨url ++ ascii "/", [], ?_⟩
        rw [List.append_nil, List.append_assoc]
        rfl

/-! ## What a client asks for -/

/-- The transport that a client asks for: two channels of the connection, or a pair of its ports. -/
inductive Offer where
  | interleaved (rtp rtcp : Nat)
  | udp (port : Nat)

/-- The Transport header of an offer. -/
def Offer.header : Offer → Bytes
  | .interleaved rtp rtcp =>
      ascii "RTP/AVP/TCP;unicast;interleaved=" ++ natDigits rtp ++ ascii "-" ++ natDigits rtcp
  | .udp port =>
      ascii "RTP/AVP;unicast;client_port=" ++ natDigits port ++ ascii "-" ++ natDigits (port + 1)

variable {M : Type}

/-- Channels are bytes, a port has a next one, and the server gets its socket. -/
def Offer.Sound (env : Env M) (ip : Bytes) : Offer → Prop
  | .interleaved rtp rtcp => rtp < 256 ∧ rtcp < 256
  | .udp port => 0 < port ∧ port < 65535 ∧ (env.setupUDP ip (UInt16.ofNat port)).isSome = true

def Offer.tcp : Offer → Bool
  | .interleaved _ _ => true
  | .udp _ => false

def readyOf : Track → Session M → Bool
  | .video, s => s.transportReady
  | .audio, s => s.audioTransportReady

/-- The session sends the track the way it was asked to. -/
def Offer.InUse (ip : Bytes) (track : Track) (s : Session M) (offer : Offer) : Prop :=
  readyOf track s = true ∧ s.useTcp = offer.tcp ∧
    match offer with
    | .interleaved rtp rtcp => s.channels track = ((rtp : Int), (rtcp : Int))
    | .udp port => s.senderOf track = some ⟨some (ip, UInt16.ofNat port)⟩

theorem stoi_natDigits {n : Nat} (hn : n < 2147483648) {t : Bytes} (ht : Ends t) :
    stoi (natDigits n ++ t) = some (n : Int) := by
  refine stoi_append ?_ ht
  unfold stoi
  rw [scanInteger_decimal (isDecimal_natDigits n), digitsVal_natDigits]
  dsimp only
  rw [if_neg Bool.false_ne_true, if_neg (by omega)]

theorem dash_not_mem_natDigits (n : Nat) : (45 : UInt8) ∉ natDigits n :=
  fun h => absurd (isDigit_natDigits h) (by decide)

/-- The dash behind a number is found. -/
theorem find_dash {pre t : Bytes} {n p : Nat} (hp : p = pre.length) :
    find (pre ++ (natDigits n ++ 45 :: t)) (ascii "-") p = some (p + (natDigits n).length) := by
  unfold find
  rw [hp, List.drop_left]
  rw [show indexOf (ascii "-") (natDigits n ++ 45 :: t) = some (natDigits n).length from
    indexOf_byte (dash_not_mem_natDigits n) t]
  rfl

theorem parseChannels_header {rtp rtcp : Nat} (h : rtp < 256 ∧ rtcp < 256) (old : Int × Int) :
    parseChannels (Offer.interleaved rtp rtcp).header old = .ok ((rtp : Int), (rtcp : Int)) := by
  obtain ⟨pre, hpre⟩ : ∃ pre, pre = ascii "RTP/AVP/TCP;unicast;interleaved=" := ⟨_, rfl⟩
  have hlen : pre.length = 20 + 12 := by rw [hpre]; decide
  have hhdr : (Offer.interleaved rtp rtcp).header =
      pre ++ (natDigits rtp ++ 45 :: natDigits rtcp) := by
    rw [hpre, Offer.header]
    simp only [List.append_assoc]
    rfl
  have hname : find (pre ++ (natDigits rtp ++ 45 :: natDigits rtcp)) (ascii "interleaved=") 0 =
      some 20 := by
    rw [find_zero]
    exact indexOf_append (by rw [hpre]; decide) _
  have hcut : substr (pre ++ (natDigits rtp ++ 45 :: natDigits rtcp)) (20 + 12)
      (20 + 12 + (natDigits rtp).length - (20 + 12)) = natDigits rtp ++ [] := by
    rw [substr, ← hlen, List.drop_left, Nat.add_sub_cancel_left, List.take_left, List.append_nil]
  have hrest : (pre ++ (natDigits rtp ++ 45 :: natDigits rtcp)).drop
      (20 + 12 + (natDigits rtp).length + 1) = natDigits rtcp ++ [] := by
    rw [← hlen, ← List.drop_drop, ← List.drop_drop, List.drop_left, List.drop_left, List.append_nil]
    rfl
  unfold parseChannels
  rw [hhdr, hname]
  dsimp only
  rw [find_dash hlen.symm]
  dsimp only
  rw [hcut, hrest, stoi_natDigits (by omega) ends_nil, stoi_natDigits (by omega) ends_nil]

theorem clientPortText_header (port : Nat) :
    clientPortText (Offer.udp port).header = some (natDigits port) := by
  obtain ⟨pre, hpre⟩ : ∃ pre, pre = ascii "RTP/AVP;unicast;client_port=" := ⟨_, rfl⟩
  have hlen : pre.length = 16 + 12 := by rw [hpre]; decide
  have hhdr : (Offer.udp port).header =
      pre ++ (natDigits port ++ 45 :: natDigits (port + 1)) := by
    rw [hpre, Offer.header]
    simp only [List.append_assoc]
    rfl
  have hname : find (pre ++ (natDigits port ++ 45 :: natDigits (port + 1)))
      (ascii "client_port=") 0 = some 16 := by
    rw [find_zero]
    exact indexOf_append (by rw [hpre]; decide) _
  unfold clientPortText
  rw [hhdr, hname]
  dsimp only
  rw [find_dash hlen.symm, Option.some_or]
  dsimp only
  rw [substr, ← hlen, List.drop_left, Nat.add_sub_cancel_left, List.take_left]

theorem wantsTcp_interleaved (rtp rtcp : Nat) :
    wantsTcp (Offer.interleaved rtp rtcp).header = true := by
  have hfound : find (Offer.interleaved rtp rtcp).header (ascii "RTP/AVP/TCP") 0 = some 0 := by
    rw [find_zero, Offer.header, List.append_assoc, List.append_assoc]
    exact indexOf_append (by decide) _
  rw [wantsTcp, hfound]
  rfl

/-- No letter is behind the name of the port. -/
theorem not_in_udp {pat : Bytes} {c : UInt8} (port : Nat) (heq : (61 : UInt8) ∉ pat) (hc : c ∈ pat)
    (hdash : c ≠ 45) (hdigit : isDigit c = false)
    (hname : ¬ pat <:+: ascii "RTP/AVP;unicast;client_port") :
    find (Offer.udp port).header pat 0 = none := by
  rw [find_zero, ← Option.not_isSome_iff_eq_none, indexOf_isSome_iff]
  intro hin
  have hport : ascii "RTP/AVP;unicast;client_port=" =
      ascii "RTP/AVP;unicast;client_port" ++ [61] := by decide
  have hsplit : (Offer.udp port).header = ascii "RTP/AVP;unicast;client_port" ++
      61 :: (natDigits port ++ 45 :: natDigits (port + 1)) := by
    rw [Offer.header, hport, List.append_assoc, List.append_assoc, List.append_assoc]
    rfl
  rw [hsplit] at hin
  rcases infix_append_cons heq hin with hin | hin
  · exact hname hin
  · have hnone : ∀ n, c ∉ natDigits n := fun n h => by
      rw [isDigit_natDigits h] at hdigit
      cases hdigit
    rcases List.mem_append.mp (hin.subset hc) with h | h
    · exact hnone _ h
    · rcases List.mem_cons.mp h with h | h
      · exact hdash h
      · exact hnone _ h

theorem wantsTcp_udp (port : Nat) : wantsTcp (Offer.udp port).header = false := by
  have htcp : find (Offer.udp port).header (ascii "RTP/AVP/TCP") 0 = none :=
    not_in_udp port (by decide) (show (82 : UInt8) ∈ ascii "RTP/AVP/TCP" by decide) (by decide)
      (by decide) (by decide)
  have hname : find (Offer.udp port).header (ascii "interleaved") 0 = none :=
    not_in_udp port (by decide) (show (105 : UInt8) ∈ ascii "interleaved" by decide) (by decide)
      (by decide) (by decide)
  rw [wantsTcp, htcp, hname]
  rfl

theorem header_ne_nil (offer : Offer) : offer.header ≠ [] := by
  cases offer <;> exact List.cons_ne_nil _ _

/-! ## The SETUP of one track -/

/-- The session when the SETUP of a track was answered 200. -/
def Offer.apply (track : Track) (s : Session M) : Offer → Session M
  | .interleaved rtp rtcp =>
      ({ s with useTcp := true }.setChannels track ((rtp : Int), (rtcp : Int))).setReady track
  | .udp port =>
      ({ s with useTcp := false }.setSender track
        ⟨some (s.clientIp, UInt16.ofNat port)⟩).setReady track

theorem toPort_natCast {port : Nat} (h : port < 65535) : toPort (port : Int) = UInt16.ofNat port := by
  unfold toPort
  congr 1
  omega

/-- An offer changes nothing but the transport of its track. -/
theorem Offer.apply_rest (offer : Offer) (track : Track) (s : Session M) :
    (offer.apply track s).clientIp = s.clientIp ∧
      (offer.apply track s).describeDone = s.describeDone ∧
      (offer.apply track s).mediaSource = s.mediaSource ∧
      (offer.apply track s).state = s.state ∧ (offer.apply track s).cmdQueue = s.cmdQueue ∧
      (offer.apply track s).log = s.log := by
  cases offer <;> cases track <;> exact ⟨rfl, rfl, rfl, rfl, rfl, rfl⟩

theorem Offer.InUse.of_same {ip : Bytes} {track : Track} {offer : Offer} {s s' : Session M}
    (h : offer.InUse ip track s) (heq : tracksOf s' = tracksOf s) : offer.InUse ip track s' := by
  obtain ⟨hready, htcp, huse⟩ := h
  refine ⟨Eq.trans ?_ hready, (congrArg TrackSetup.useTcp heq).trans htcp, ?_⟩
  · cases track with
    | video => exact congrArg TrackSetup.transportReady heq
    | audio => exact congrArg TrackSetup.audioTransportReady heq
  · cases offer with
    | interleaved rtp rtcp =>
        refine Eq.trans ?_ huse
        cases track with
        | video =>
            exact Prod.ext (congrArg TrackSetup.rtpChannel heq) (congrArg TrackSetup.rtcpChannel heq)
        | audio =>
            exact Prod.ext (congrArg TrackSetup.audioRtpChannel heq)
              (congrArg TrackSetup.audioRtcpChannel heq)
    | udp port =>
        refine Eq.trans ?_ huse
        cases track with
        | video => exact congrArg TrackSetup.rtpSender heq
        | audio => exact congrArg TrackSetup.audioRtpSender heq

theorem Offer.inUse_apply (offer : Offer) (track : Track) (s : Session M) :
    offer.InUse s.clientIp track (offer.apply track s) := by
  cases offer <;> cases track <;> exact ⟨rfl, rfl, rfl⟩

/-- An offer of the same kind for the other track stays in use. -/
theorem Offer.InUse.apply {ip : Bytes} {track track' : Track} {offer offer' : Offer}
    {s : Session M} (h : offer.InUse ip track s) (hne : track' ≠ track)
    (hkind : offer'.tcp = offer.tcp) : offer.InUse ip track (offer'.apply track' s) := by
  obtain ⟨hready, -, huse⟩ := h
  refine ⟨Eq.trans ?_ hready, Eq.trans ?_ hkind, ?_⟩
  · cases track <;> cases track' <;> cases offer' <;> first | rfl | exact absurd rfl hne
  · cases track' <;> cases offer' <;> rfl
  · cases offer with
    | interleaved rtp rtcp =>
        refine Eq.trans ?_ huse
        cases track <;> cases track' <;> cases offer' <;> first | rfl | exact absurd rfl hne
    | udp port =>
        refine Eq.trans ?_ huse
        cases track <;> cases track' <;> cases offer' <;> first | rfl | exact absurd rfl hne

/-- A sound offer is accepted once the file is described. -/
theorem handleSetup_offer (env : Env M) (req : RTSPRequest) {s : Session M} {offer : Offer}
    (hhdr : req.header (ascii "transport") = offer.header) (hdescribe : s.describeDone = true)
    (hsource : s.mediaSource.isSome = true) (hsound : offer.Sound env s.clientIp) :
    ∃ transport, s.handleSetup env req =
      .ok ((offer.apply (trackOf req.url) s).setupDone env req (trackOf req.url) transport) := by
  obtain ⟨m, hm⟩ := Option.isSome_iff_exists.mp hsource
  unfold handleSetup
  rw [if_neg (by simp [hdescribe, hm]), hhdr, if_neg (header_ne_nil offer)]
  cases offer with
  | interleaved rtp rtcp =>
      rw [if_pos (wantsTcp_interleaved rtp rtcp), setupTcp]
      rw [parseChannels_header hsound]
      exact ⟨_, rfl⟩
  | udp port =>
      obtain ⟨hpos, hlt, hsocket⟩ := hsound
      obtain ⟨srvPort, hsrv⟩ := Option.isSome_iff_exists.mp hsocket
      rw [wantsTcp_udp, if_neg Bool.false_ne_true, setupUdp]
      dsimp only
      have hstoi : stoi (natDigits port) = some (port : Int) := by
        rw [← List.append_nil (natDigits port)]
        exact stoi_natDigits (by omega) ends_nil
      rw [clientPortText_header]
      dsimp only
      rw [hstoi]
      dsimp only
      rw [toPort_natCast hlt, hsrv]
      exact ⟨_, rfl⟩

/-! ## The whole exchange -/

/-- What the client asks for in one request. -/
inductive Ask where
  | describe
  | setup (track : Track) (offer : Offer)
  | play

/-- The request that asks for it. -/
def Ask.Makes (url : Bytes) : Ask → RTSPRequest → Prop
  | .describe, req => req.method = ascii "DESCRIBE" ∧ req.url = url
  | .setup track offer, req =>
      req.method = ascii "SETUP" ∧ req.url = controlUrl url track ∧
        req.header (ascii "transport") = offer.header
  | .play, req => req.method = ascii "PLAY"

/-- DESCRIBE, a SETUP of each track, PLAY. -/
def handshakeOf (offers : List (Track × Offer)) : List Ask :=
  .describe :: (offers.map fun o => .setup o.1 o.2) ++ [.play]

/-- The tracks are different and the video is one of them, the offers are of one kind. -/
structure Consistent (offers : List (Track × Offer)) : Prop where
  distinct : (offers.map Prod.fst).Nodup
  video : .video ∈ offers.map Prod.fst
  kind : ∀ o ∈ offers, ∀ o' ∈ offers, o.2.tcp = o'.2.tcp

/-- Where a request is handled, the file is there and every offer can be met. -/
def Provides (root ip url : Bytes) (offers : List (Track × Offer)) : SessionAct M → Prop
  | .handle env =>
      NamesFile env root url ∧ (env.openSource (describedPath env root url)).isSome = true ∧
        ∀ o ∈ offers, o.2.Sound env ip
  | _ => True

/-- The requests that come in. -/
def commands (as : List (SessionAct M)) : List RTSPRequest :=
  as.filterMap fun a => match a with
    | .command req => some req
    | _ => none

/-- Each request in turn is answered with 200. -/
def AllServed (reqs : List RTSPRequest) (before after : List Event) : Prop :=
  ∃ answers, answers.length = reqs.length ∧ (∀ r ∈ answers, r.status = 200) ∧
    dialogue after = dialogue before ++
      (reqs.zip answers).flatMap fun p => [.request p.1, .response p.2]

/-- What a tick leaves alone; it pauses a playing session at most. -/
structure Undisturbed (s s' : Session M) : Prop where
  clientIp : s'.clientIp = s.clientIp
  mediaRoot : s'.mediaRoot = s.mediaRoot
  tracks : tracksOf s' = tracksOf s
  describeDone : s'.describeDone = s.describeDone
  source : s'.mediaSource.isSome = s.mediaSource.isSome
  state : s'.state = s.state ∨ s.state = .playing ∧ s'.state = .paused

/-- What is still to be asked, and how far the session is. -/
inductive Progress (root ip : Bytes) (offers : List (Track × Offer)) (s : Session M) :
    List Ask → Prop where
  | asks (hip : s.clientIp = ip) (hroot : s.mediaRoot = root) :
      Progress root ip offers s (handshakeOf offers)
  | described (hip : s.clientIp = ip) (hdescribe : s.describeDone = true)
      (hsource : s.mediaSource.isSome = true) (done rest : List (Track × Offer))
      (hoffers : offers = done ++ rest) (huse : ∀ o ∈ done, o.2.InUse ip o.1 s)
      (hready : .video ∈ done.map Prod.fst → s.state = .ready) :
      Progress root ip offers s ((rest.map fun o => .setup o.1 o.2) ++ [.play])
  | played (hsource : s.mediaSource.isSome = true) (huse : ∀ o ∈ offers, o.2.InUse ip o.1 s)
      (hstate : s.state = .playing ∨ s.state = .paused) : Progress root ip offers s []

theorem Progress.undisturbed {root ip : Bytes} {offers : List (Track × Offer)}
    {s s' : Session M} {asks : List Ask} (h : Progress root ip offers s asks)
    (hu : Undisturbed s s') : Progress root ip offers s' asks := by
  cases h with
  | asks hip hroot => exact .asks (hu.clientIp.trans hip) (hu.mediaRoot.trans hroot)
  | described hip hdescribe hsource done rest hoffers huse hready =>
      refine .described (hu.clientIp.trans hip) (hu.describeDone.trans hdescribe)
        (hu.source.trans hsource) done rest hoffers (fun o ho => (huse o ho).of_same hu.tracks) ?_
      intro hvideo
      have hr := hready hvideo
      rcases hu.state with h | ⟨h, -⟩
      · exact h.trans hr
      · rw [hr] at h
        cases h
  | played hsource huse hstate =>
      refine .played (hu.source.trans hsource) (fun o ho => (huse o ho).of_same hu.tracks) ?_
      rcases hu.state with h | ⟨-, h⟩
      · rw [h]
        exact hstate
      · exact .inr h

/-- The next request is answered with 200. -/
def Advanced (req : RTSPRequest) (rest : List RTSPRequest) (s s' : Session M) : Prop :=
  s'.cmdQueue = rest ∧
    ∃ resp, resp.status = 200 ∧ dialogue s'.log = dialogue s.log ++ [.request req, .response resp]

theorem dialogue_append (l l' : List Event) : dialogue (l ++ l') = dialogue l ++ dialogue l' :=
  List.filter_append ..

theorem advanced_of_log {req : RTSPRequest} {rest : List RTSPRequest}
    {s s' : Session M} {l : List Event} {resp : RTSPResponse} (hqueue : s'.cmdQueue = rest)
    (hlog : s'.log = s.log ++ .request req :: l ++ [.response resp])
    (hsilent : ∀ e ∈ l, e.isExchange = false) (hok : resp.status = 200) :
    Advanced req rest s s' := by
  have hnone : dialogue l = [] :=
    List.filter_eq_nil_iff.mpr fun e he => by rw [hsilent e he]; exact Bool.false_ne_true
  refine ⟨hqueue, resp, hok, ?_⟩
  rw [hlog, dialogue_append, dialogue_append, List.append_assoc]
  congr 1
  show Event.request req :: dialogue l ++ _ = _
  rw [hnone]
  rfl

theorem advanced_sendResponse {req : RTSPRequest} {rest : List RTSPRequest} {s t : Session M}
    {resp : RTSPResponse} (hqueue : t.cmdQueue = rest) (hlog : t.log = s.log ++ [.request req])
    (hok : resp.status = 200) : Advanced req rest s (t.sendResponse resp) := by
  refine advanced_of_log (l := []) hqueue ?_ (fun _ h => nomatch h) hok
  exact congrArg (· ++ [Event.response resp]) hlog

theorem AllServed.cons {req : RTSPRequest} {reqs rest : List RTSPRequest} {s t : Session M}
    {after : List Event} (h : Advanced req rest s t) (hrest : AllServed reqs t.log after) :
    AllServed (req :: reqs) s.log after := by
  obtain ⟨-, resp, hok, hlog⟩ := h
  obtain ⟨answers, hlen, hstatus, hafter⟩ := hrest
  refine ⟨resp :: answers, congrArg (· + 1) hlen, ?_, ?_⟩
  · intro r hr
    rcases List.mem_cons.mp hr with rfl | hr
    · exact hok
    · exact hstatus r hr
  · rw [hafter, hlog, List.append_assoc]
    rfl

variable [IMediaSource M]

theorem undisturbed_deliver (env : Env M) (now : Int) (source : M) (vp : VideoPacket)
    {s t : Session M} (h : Undisturbed s t) : Undisturbed s (t.deliver env now source vp) := by
  obtain ⟨tail, -, -, seq, loads, close, aseq, held, n, heq⟩ := deliver_spec env now source vp t
  rw [heq]
  refine ⟨h.clientIp, h.mediaRoot, h.tracks, h.describeDone, ?_, h.state⟩
  show Option.isSome (t.mediaSource.map _) = _
  rw [Option.isSome_map]
  exact h.source

theorem undisturbed_pace (env : Env M) (now : Int) (s : Session M) :
    Undisturbed s (s.pace env now) := by
  have hholds : ∀ {source source' : M} {vp : VideoPacket} {t : Session M},
      s.mediaSource = some source → Holds now source s vp source' t → Undisturbed s t := by
    intro source source' vp t hsource h
    cases h with
    | kept => exact ⟨rfl, rfl, rfl, rfl, rfl, .inl rfl⟩
    | read => exact ⟨rfl, rfl, rfl, rfl, by rw [hsource]; rfl, .inl rfl⟩
  have h := ticks_pace env now s
  generalize s.pace env now = s' at h ⊢
  cases h with
  | idle =>
      obtain ⟨pause, heq⟩ := notStreaming_eq now s
      rw [heq]
      exact ⟨rfl, rfl, rfl, rfl, rfl, .inl rfl⟩
  | passes hs hsource h =>
      cases h with
      | gated => exact ⟨rfl, rfl, rfl, rfl, rfl, .inl rfl⟩
      | ended => exact ⟨rfl, rfl, rfl, rfl, by rw [hsource]; rfl, .inl rfl⟩
      | skipped => exact ⟨rfl, rfl, rfl, rfl, by rw [hsource]; rfl, .inl rfl⟩
      | stopped => exact ⟨rfl, rfl, rfl, rfl, by rw [hsource]; rfl, .inr ⟨hs.1, rfl⟩⟩
  | waits _ hsource h =>
      obtain ⟨hip, hroot, htracks, hdone, hsome, hstate⟩ := hholds hsource h
      exact ⟨hip, hroot, htracks, hdone, hsome, hstate⟩
  | starts _ hsource h =>
      obtain ⟨hip, hroot, htracks, hdone, hsome, hstate⟩ := hholds hsource h
      exact undisturbed_deliver env now _ _ ⟨hip, hroot, htracks, hdone, hsome, hstate⟩
  | sends _ hsource h =>
      obtain ⟨hip, hroot, htracks, hdone, hsome, hstate⟩ := hholds hsource h
      exact undisturbed_deliver env now _ _ ⟨hip, hroot, htracks, hdone, hsome, hstate⟩

/-! ## The three kinds of requests -/

/-- DESCRIBE opens the file. -/
theorem describe_advances {env : Env M} {root ip url : Bytes} {offers : List (Track × Offer)}
    {req : RTSPRequest} (rest : List RTSPRequest) {s : Session M} (hip : s.clientIp = ip)
    (hroot : s.mediaRoot = root) (hmakes : Ask.describe.Makes url req)
    (hprovides : Provides root ip url offers (.handle env : SessionAct M)) :
    ∃ s', s.handleNext env req rest = .ok s' ∧ Advanced req rest s s' ∧
      s'.clientIp = ip ∧ s'.describeDone = true ∧ s'.mediaSource.isSome = true := by
  obtain ⟨hmethod, rfl⟩ := hmakes
  obtain ⟨hnames, hopens, -⟩ := hprovides
  rw [handleNext, handleRequest_describe env _ hmethod]
  refine ⟨_, rfl, ?_⟩
  obtain ⟨t, ht⟩ : ∃ t, t = ({ s with cmdQueue := rest }.emit (.request req)) := ⟨_, rfl⟩
  have htroot : t.mediaRoot = root := by rw [ht]; exact hroot
  rw [← ht]
  unfold handleDescribe
  rcases openMedia_cases env req.url req.cseq { t with mediaSource := none } with
    ⟨m, -, -, heq⟩ | ⟨_, _, _, -, hfails, -⟩
  · rw [heq]
    refine ⟨advanced_sendResponse ?_ ?_ rfl, ?_, rfl, rfl⟩
    · rw [ht]
      rfl
    · rw [ht]
      rfl
    · rw [ht]
      exact hip
  · exact absurd ⟨htroot ▸ hnames, htroot ▸ hopens⟩ hfails

/-- A SETUP of a track takes its offer. -/
theorem setup_advances {env : Env M} {root ip url : Bytes} {offers : List (Track × Offer)}
    {o : Track × Offer} {req : RTSPRequest} (rest : List RTSPRequest) {s : Session M}
    (hurl : ¬ ascii "trackID=1" <:+: url) (ho : o ∈ offers) (hip : s.clientIp = ip)
    (hdescribe : s.describeDone = true) (hsource : s.mediaSource.isSome = true)
    (hmakes : (Ask.setup o.1 o.2).Makes url req)
    (hprovides : Provides root ip url offers (.handle env : SessionAct M)) :
    ∃ s', s.handleNext env req rest = .ok s' ∧ Advanced req rest s s' ∧
      s'.clientIp = ip ∧ s'.describeDone = true ∧ s'.mediaSource.isSome = true ∧
      tracksOf s' = tracksOf (o.2.apply o.1 s) ∧
      s'.state = if o.1 = .video then .ready else s.state := by
  obtain ⟨track, offer⟩ := o
  obtain ⟨hmethod, hrequrl, hhdr⟩ := hmakes
  have htrack : trackOf req.url = track := by
    rw [hrequrl]
    exact (trackOf_controlUrl url).mpr hurl track
  have hsound : offer.Sound env s.clientIp := by
    rw [hip]
    exact hprovides.2.2 _ ho
  obtain ⟨t, ht⟩ : ∃ t, t = ({ s with cmdQueue := rest }.emit (.request req)) := ⟨_, rfl⟩
  have htdescribe : t.describeDone = true := by rw [ht]; exact hdescribe
  have htsource : t.mediaSource.isSome = true := by rw [ht]; exact hsource
  have htsound : offer.Sound env t.clientIp := by rw [ht]; exact hsound
  obtain ⟨transport, hres⟩ := handleSetup_offer env req hhdr htdescribe htsource htsound
  rw [handleNext, handleRequest_setup env _ hmethod, ← ht, hres, htrack]
  refine ⟨_, rfl, ?_⟩
  obtain ⟨hip', hdescribe', hsource', hstate', hqueue', hlog'⟩ := offer.apply_rest track t
  have htracks : tracksOf (offer.apply track t) = tracksOf (offer.apply track s) := by
    rw [ht]
    cases offer <;> cases track <;> rfl
  have htip : t.clientIp = ip := by rw [ht]; exact hip
  have htqueue : t.cmdQueue = rest := by rw [ht]; rfl
  have htlog : t.log = s.log ++ [.request req] := by rw [ht]; rfl
  have htstate : t.state = s.state := by rw [ht]; rfl
  have hsetup : (offer.apply track t).mediaSource.isSome = true := by rw [hsource', htsource]
  unfold setupDone at *
  cases track with
  | video =>
      exact ⟨advanced_sendResponse (hqueue'.trans htqueue) (hlog'.trans htlog) rfl,
        hip'.trans htip, hdescribe'.trans htdescribe, hsetup, htracks, rfl⟩
  | audio =>
      exact ⟨advanced_sendResponse (hqueue'.trans htqueue) (hlog'.trans htlog) rfl,
        hip'.trans htip, hdescribe'.trans htdescribe, hsetup, htracks, hstate'.trans htstate⟩

/-- PLAY starts a session whose video track is set up. -/
theorem play_advances {env : Env M} {req : RTSPRequest} (rest : List RTSPRequest) {s : Session M}
    (hmethod : req.method = ascii "PLAY") (hready : s.state = .ready) :
    ∃ s', s.handleNext env req rest = .ok s' ∧ Advanced req rest s s' ∧
      tracksOf s' = tracksOf s ∧ s'.mediaSource.isSome = s.mediaSource.isSome ∧
      s'.state = .playing := by
  obtain ⟨t, ht⟩ : ∃ t, t = ({ s with cmdQueue := rest }.emit (.request req)) := ⟨_, rfl⟩
  have htready : t.state = .ready := by rw [ht]; exact hready
  obtain ⟨l, resp, hlog, hsilent, hmem, hview⟩ := (obeys_handlePlay env t hmethod).log
  have hok : resp.status = 200 := by
    have hphase : ¬ (viewOf t).phase = .init := fun h =>
      absurd (htready.symm.trans h) (by decide)
    rw [Protocol.statuses_play hmethod, if_neg hphase] at hmem
    exact List.mem_singleton.mp hmem
  rw [hok, Protocol.after_play hmethod] at hview
  rw [handleNext, handleRequest_play env _ hmethod, ← ht]
  refine ⟨_, rfl, advanced_of_log ?_ ?_ (fun e he => (hsilent e he).1) hok, ?_, ?_,
    congrArg Protocol.View.phase hview⟩
  · rw [(quiet_handlePlay env req t).cmdQueue, ht]
    rfl
  · rw [hlog, ht]
    show s.log ++ [_] ++ l ++ _ = _
    rw [List.append_assoc s.log]
    rfl
  · rw [tracksOf_handlePlay, ht]
    rfl
  · rw [(handlePlay_spec env req t).2.1, ht]
    rfl

/-- One request of the exchange. -/
theorem progress_handle {env : Env M} {root ip url : Bytes} {offers : List (Track × Offer)}
    {ask : Ask} {asks : List Ask} {req : RTSPRequest} (rest : List RTSPRequest) {s : Session M}
    (hurl : ¬ ascii "trackID=1" <:+: url) (hconsistent : Consistent offers)
    (h : Progress root ip offers s (ask :: asks)) (hmakes : ask.Makes url req)
    (hprovides : Provides root ip url offers (.handle env : SessionAct M)) :
    ∃ s', s.handleNext env req rest = .ok s' ∧ Advanced req rest s s' ∧
      Progress root ip offers s' asks := by
  generalize hasks : ask :: asks = all at h
  cases h with
  | asks hip hroot =>
      obtain ⟨rfl, rfl⟩ := List.cons.inj hasks
      obtain ⟨s', hres, hadv, hip', hdescribe, hsource⟩ :=
        describe_advances rest hip hroot hmakes hprovides
      exact ⟨s', hres, hadv, .described hip' hdescribe hsource [] offers rfl
        (fun _ h => nomatch h) (fun h => nomatch h)⟩
  | described hip hdescribe hsource done left hoffers huse hready =>
      cases left with
      | nil =>
          obtain ⟨rfl, rfl⟩ := List.cons.inj hasks
          rw [List.append_nil] at hoffers
          subst hoffers
          obtain ⟨s', hres, hadv, htracks, hsource', hstate⟩ :=
            play_advances rest hmakes (hready hconsistent.video)
          exact ⟨s', hres, hadv, .played (hsource'.trans hsource)
            (fun o ho => (huse o ho).of_same htracks) (.inl hstate)⟩
      | cons o left =>
          obtain ⟨rfl, rfl⟩ := List.cons.inj hasks
          have ho : o ∈ offers := by
            rw [hoffers]
            exact List.mem_append_right _ List.mem_cons_self
          obtain ⟨s', hres, hadv, hip', hdescribe', hsource', htracks, hstate⟩ :=
            setup_advances rest hurl ho hip hdescribe hsource hmakes hprovides
          refine ⟨s', hres, hadv, .described hip' hdescribe' hsource' (done ++ [o]) left
            (by rw [hoffers, List.append_assoc]; rfl) (fun o' ho' => ?_) (fun hvideo => ?_)⟩
          · rcases List.mem_append.mp ho' with ho' | ho'
            · have hdistinct := hconsistent.distinct
              rw [hoffers, List.map_append, List.map_cons] at hdistinct
              have hne : o.1 ≠ o'.1 := fun heq =>
                (List.nodup_append.mp hdistinct).2.2 _ (List.mem_map_of_mem ho') _
                  List.mem_cons_self heq.symm
              have hin : o' ∈ offers := by
                rw [hoffers]
                exact List.mem_append_left _ ho'
              exact ((huse o' ho').apply hne (hconsistent.kind o ho o' hin)).of_same htracks
            · rw [List.mem_singleton.mp ho', ← hip]
              exact (o.2.inUse_apply o.1 s).of_same htracks
          · rw [hstate]
            split
            · rfl
            · next hne =>
                rw [List.map_append, List.mem_append] at hvideo
                rcases hvideo with hvideo | hvideo
                · exact hready hvideo
                · exact absurd (List.mem_singleton.mp hvideo).symm hne
  | played => cases hasks

/-- Every request that comes in is served, and the exchange is over when the queue is empty. -/
theorem serves_all {root ip url : Bytes} {offers : List (Track × Offer)}
    (hurl : ¬ ascii "trackID=1" <:+: url) (hconsistent : Consistent offers)
    {as : List (SessionAct M)} {t : Handled M} (hprovides : ∀ a ∈ as, Provides root ip url offers a)
    (hqueue : (sessionOf t).cmdQueue = []) :
    ∀ {s : Session M} {asks : List Ask}, Progress root ip offers s asks →
      List.Forall₂ (Ask.Makes url) asks (s.cmdQueue ++ commands as) →
      Lts.run sessionStep (.ok s) as = some t →
      ∃ u, t = .ok u ∧ Progress root ip offers u [] ∧
        AllServed (s.cmdQueue ++ commands as) s.log u.log := by
  induction as with
  | nil =>
      intro s asks hprogress hmakes hrun
      obtain rfl := Option.some.inj hrun
      have hnil : s.cmdQueue ++ commands ([] : List (SessionAct M)) = [] := by
        rw [show s.cmdQueue = [] from hqueue]
        rfl
      rw [hnil] at hmakes ⊢
      obtain rfl := List.forall₂_nil_right_iff.mp hmakes
      exact ⟨s, rfl, hprogress, [], rfl, (fun _ h => nomatch h), (List.append_nil _).symm⟩
  | cons a as ih =>
      intro s asks hprogress hmakes hrun
      obtain ⟨t', hstep, hrest⟩ := Lts.run_cons hrun
      have hprovides' : ∀ a ∈ as, Provides root ip url offers a :=
        fun a ha => hprovides a (List.mem_cons_of_mem _ ha)
      cases a with
      | command req =>
          obtain rfl := Option.some.inj hstep
          have hsame : s.cmdQueue ++ commands (.command req :: as) =
              (s.cmdQueue ++ [req]) ++ commands as :=
            (List.append_assoc s.cmdQueue [req] (commands as)).symm
          rw [hsame] at hmakes ⊢
          have hu : Undisturbed s { s with cmdQueue := s.cmdQueue ++ [req] } :=
            ⟨rfl, rfl, rfl, rfl, rfl, .inl rfl⟩
          exact ih hprovides' (hprogress.undisturbed hu) hmakes hrest
      | handle env =>
          obtain ⟨req, rest, hq, rfl⟩ := handle_cases hstep
          have hsame : s.cmdQueue ++ commands (.handle env :: as) = req :: (rest ++ commands as) := by
            rw [hq]
            rfl
          rw [hsame] at hmakes ⊢
          cases hmakes with
          | @cons ask _ asks _ hmakes htail =>
              obtain ⟨s', hres, hadv, hprogress'⟩ :=
                progress_handle rest hurl hconsistent hprogress hmakes
                  (hprovides _ List.mem_cons_self)
              rw [hres] at hrest
              rw [← hadv.1] at htail ⊢
              obtain ⟨u, hu, hdone, hserved⟩ := ih hprovides' hprogress' htail hrest
              exact ⟨u, hu, hdone, .cons hadv hserved⟩
      | pace env now =>
          obtain rfl := Option.some.inj hstep
          have hpace := undisturbed_pace env now s
          have hlog : dialogue (s.pace env now).log = dialogue s.log :=
            (paces_pace env now s).dialogue
          have hsame : s.cmdQueue ++ commands (.pace env now :: as) =
              (s.pace env now).cmdQueue ++ commands as := by
            rw [(ticks_pace env now s).cmdQueue]
            rfl
          rw [hsame] at hmakes ⊢
          obtain ⟨u, hu, hdone, answers, hlen, hok, hafter⟩ :=
            ih hprovides' (hprogress.undisturbed hpace) hmakes hrest
          exact ⟨u, hu, hdone, answers, hlen, hok, by rw [hafter, hlog]⟩

/-- **A client that follows the description is served.** From every session with an empty queue, in
    every run in which the client asks for the description, then sets up the video and perhaps the
    audio, in either order and with transports of one kind, each at its control URL, and then asks to
    play, with any ticks in between: every request is answered with 200, and when all are handled the
    session streams, or is paused at the end of the Range, each track over the transport that was
    asked for. -/
theorem handshake (s : Session M) {url : Bytes} {offers : List (Track × Offer)}
    {as : List (SessionAct M)} {t : Handled M} (hurl : ¬ ascii "trackID=1" <:+: url)
    (hconsistent : Consistent offers) (hidle : s.cmdQueue = [])
    (hreqs : List.Forall₂ (Ask.Makes url) (handshakeOf offers) (commands as))
    (hprovides : ∀ a ∈ as, Provides s.mediaRoot s.clientIp url offers a)
    (h : Lts.run sessionStep (.ok s) as = some t) (hdone : (sessionOf t).cmdQueue = []) :
    ∃ u, t = .ok u ∧ AllServed (commands as) s.log u.log ∧
      (u.Streaming ∨ u.state = .paused) ∧ ∀ o ∈ offers, o.2.InUse s.clientIp o.1 u := by
  have hmakes : List.Forall₂ (Ask.Makes url) (handshakeOf offers) (s.cmdQueue ++ commands as) := by
    rw [hidle]
    exact hreqs
  obtain ⟨u, hu, hprogress, hserved⟩ :=
    serves_all hurl hconsistent hprovides hdone (.asks rfl rfl) hmakes h
  rw [hidle] at hserved
  refine ⟨u, hu, hserved, ?_⟩
  generalize hasks : ([] : List Ask) = asks at hprogress
  cases hprogress with
  | asks => cases hasks
  | described _ _ _ _ rest => cases rest <;> cases hasks
  | played hsource huse hstate =>
      obtain ⟨o, ho, hvideo⟩ := List.mem_map.mp hconsistent.video
      have hready : u.transportReady = true := by
        have := (huse o ho).1
        rw [hvideo] at this
        exact this
      exact ⟨hstate.imp (fun hplaying => ⟨hplaying, hsource, hready⟩) id, huse⟩

/-- DESCRIBE, the audio over UDP, the video over UDP, a tick, PLAY and the tick of the first frame. -/
def udpExchange : List (SessionAct (MediaSource PacketList Unit)) :=
  exchange (describeRequest "rtsp://h/a.mp4") ++
    (exchange (audioSetup "RTP/AVP;unicast;client_port=5002-5003") ++
      (exchange (setupRequest "RTP/AVP;unicast;client_port=5000-5001") ++
        ([.pace oneFile 1] ++ (exchange playRequest ++ [.pace oneFile 2]))))

def udpOffers : List (Track × Offer) := [(.audio, .udp 5002), (.video, .udp 5000)]

theorem handshake_udp : ∃ u, Lts.run sessionStep (.ok client) udpExchange = some (.ok u) ∧
    AllServed (commands udpExchange) [] u.log ∧ (u.Streaming ∨ u.state = .paused) ∧
      (Offer.udp 5000).InUse (ascii "10.0.0.2") .video u ∧
      (Offer.udp 5002).InUse (ascii "10.0.0.2") .audio u := by
  have hrun : (Lts.run sessionStep (.ok client) udpExchange).map
      (fun t => decide ((sessionOf t).cmdQueue = [])) = some true := by
    decide +kernel
  obtain ⟨t, ht, hdone⟩ := Option.map_eq_some_iff.mp hrun
  have hreqs : List.Forall₂ (Ask.Makes (ascii "rtsp://h/a.mp4")) (handshakeOf udpOffers)
      (commands udpExchange) :=
    .cons ⟨rfl, rfl⟩ (.cons ⟨rfl, rfl, by decide +kernel⟩
      (.cons ⟨rfl, rfl, by decide +kernel⟩ (.cons rfl .nil)))
  have hone : Provides (ascii "/media") (ascii "10.0.0.2") (ascii "rtsp://h/a.mp4") udpOffers
      (.handle oneFile : SessionAct (MediaSource PacketList Unit)) :=
    ⟨⟨by decide +kernel, by decide +kernel, by decide +kernel, by decide +kernel⟩,
      by decide +kernel, List.forall_mem_cons.mpr ⟨⟨by decide, by decide, rfl⟩,
        List.forall_mem_singleton.mpr ⟨by decide, by decide, rfl⟩⟩⟩
  have hexchange : ∀ req, ∀ a ∈ exchange req, Provides (ascii "/media") (ascii "10.0.0.2")
      (ascii "rtsp://h/a.mp4") udpOffers a :=
    fun req => List.forall_mem_cons.mpr ⟨trivial, List.forall_mem_singleton.mpr hone⟩
  have htick : ∀ now, ∀ a ∈ ([.pace oneFile now] : List (SessionAct (MediaSource PacketList Unit))),
      Provides (ascii "/media") (ascii "10.0.0.2") (ascii "rtsp://h/a.mp4") udpOffers a :=
    fun now => List.forall_mem_singleton.mpr trivial
  obtain ⟨u, rfl, hserved, hstate, huse⟩ := handshake client (by decide +kernel)
    ⟨by decide, by decide, by decide⟩ rfl hreqs
    (List.forall_mem_append.mpr ⟨hexchange _, List.forall_mem_append.mpr ⟨hexchange _,
      List.forall_mem_append.mpr ⟨hexchange _, List.forall_mem_append.mpr ⟨htick _,
        List.forall_mem_append.mpr ⟨hexchange _, htick _⟩⟩⟩⟩⟩)
    ht (of_decide_eq_true hdone)
  exact ⟨u, ht, hserved, hstate, huse (.video, .udp 5000) (.tail _ (.head _)),
    huse (.audio, .udp 5002) (.head _)⟩

end RtspServer
