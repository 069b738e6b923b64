/-
  Model of `server/RTSPSession.cpp`, first part: the state of a session as the pool worker sees
  it, the helpers that send, and the handlers of the RTSP methods. The pacer's tick is in
  `PacerTick`; the receive and the write side, which the Dispatcher runs, are in `Framer` and
  `WriteWake`.

  What the session writes is kept in one list, `log`, in order: the buffers it pushes to
  `outbox_` (responses and interleaved frames), the datagrams of its UDP senders, and marks for
  the points of a tick the results speak about. No step reads the log. `outbox_` is what the
  Dispatcher has not taken yet of these buffers; what the session reads of it is
  `outbox_bytes_`, and since the Dispatcher works at the same time, the value of each load is
  taken from outside (`Env.outboxLoad`, by the number of the load).

  `Env` holds what a handler gets from outside: the file system, the media library, the sockets,
  the clocks and the conversion of text to `double`. Seconds are rational numbers, `Clock` is in
  nanoseconds with 0 for `time_point{}`. A handler returns `.error` with the state as it is then
  when an exception leaves it.
-/
import RtspServer.Rtsp.Request
import RtspServer.Rtsp.Response
import RtspServer.Media.IMediaSource
import RtspServer.Rtp.RTPPacket
import RtspServer.Server.WriteWake

namespace RtspServer

open ByteString Decimal StringUtils

/-! ## State -/

inductive State where
  | init
  | ready
  | playing
  | paused
  deriving DecidableEq

inductive Track where
  | video
  | audio
  deriving DecidableEq

/-- A `RTPSender` after `setupUDP`: the destination, `none` when the set-up failed. -/
structure UdpSender where
  dest : Option (Bytes × UInt16)
  deriving DecidableEq

/-- What a session does, in order. -/
inductive Event where
  /-- a command was popped from `cmd_queue_` -/
  | request (req : RTSPRequest)
  /-- a response was pushed to `outbox_` -/
  | response (resp : RTSPResponse)
  /-- an interleaved frame was pushed to `outbox_` -/
  | interleaved (track : Track) (frame : Bytes)
  | datagram (track : Track) (dest : Bytes × UInt16) (rtp : Bytes)
  /-- the packet was built and went nowhere -/
  | dropped (track : Track) (rtp : Bytes)
  /-- the source was repositioned -/
  | sought
  /-- `wall_start_` and `loop_video_offset_` were set from this frame -/
  | anchored (vp : VideoPacket) (now : Int)
  /-- the frame was timed, this many 90 kHz ticks after the anchor -/
  | timed (vp : VideoPacket) (ticks : Nat)
  /-- the frame is due and its packets follow -/
  | sending (vp : VideoPacket)
  deriving DecidableEq

structure Session (M : Type) where
  clientIp : Bytes
  mediaRoot : Bytes
  sessionId : Bytes
  state : State
  mediaSource : Option M
  describeDone : Bool
  rtpSender : Option UdpSender
  audioRtpSender : Option UdpSender
  useTcp : Bool
  rtpChannel : Int
  rtcpChannel : Int
  audioRtpChannel : Int
  audioRtcpChannel : Int
  transportReady : Bool
  audioTransportReady : Bool
  wallStart : Int
  pauseStart : Int
  firstFrame : Bool
  loopVideoOffset : UInt32
  audioLoopOffset : UInt32
  pendingVp : Option VideoPacket
  pendingAp : Option AudioPacket
  lastVideoRtp : UInt32
  lastFrameDur : Option UInt32
  resumeWaitingForIdr : Bool
  lastKeyframeNpt : Rat
  lastNpt : Rat
  nptEnd : Rat
  rtpSeq : UInt16
  ssrc : UInt32
  audioRtpSeq : UInt16
  audioSsrc : UInt32
  closeAfterWrite : Bool
  cmdQueue : List RTSPRequest
  /-- the number of loads of `outbox_bytes_` so far -/
  loads : Nat
  log : List Event

/-- The constructor, with the random values it draws. -/
def Session.new {M : Type} (clientIp mediaRoot sessionId : Bytes) (ssrc audioSsrc : UInt32) :
    Session M :=
  { clientIp := clientIp, mediaRoot := mediaRoot, sessionId := sessionId, state := .init
    mediaSource := none, describeDone := false, rtpSender := none, audioRtpSender := none
    useTcp := false, rtpChannel := 0, rtcpChannel := 1, audioRtpChannel := 2
    audioRtcpChannel := 3, transportReady := false, audioTransportReady := false
    wallStart := 0, pauseStart := 0, firstFrame := true
    loopVideoOffset := 0, audioLoopOffset := 0, pendingVp := none, pendingAp := none
    lastVideoRtp := 0, lastFrameDur := none, resumeWaitingForIdr := false, lastKeyframeNpt := 0
    lastNpt := 0, nptEnd := -1, rtpSeq := 0, ssrc := ssrc, audioRtpSeq := 0
    audioSsrc := audioSsrc, closeAfterWrite := false, cmdQueue := [], loads := 0, log := [] }

/-- `std::filesystem`, on paths as byte strings. -/
structure Filesystem where
  /-- `operator/` -/
  append : Bytes → Bytes → Bytes
  weaklyCanonical : Bytes → Bytes
  /-- `none` when the error code is set -/
  relative : Bytes → Bytes → Option Bytes
  /-- `exists` -/
  isPresent : Bytes → Bool

/-- What one call gets from outside. -/
structure Env (M : Type) where
  fs : Filesystem
  /-- `MediaSource::open`, `none` when it returns false -/
  openSource : Bytes → Option M
  /-- `RTPSender::setupUDP` and the local port, `none` when it returns false -/
  setupUDP : Bytes → UInt16 → Option UInt16
  /-- `std::stod`, `none` for an exception; the values are finite ones, so that the `inf` and the
      `nan` which it returns for texts of these names are not among them -/
  stod : Bytes → Option Rat
  /-- `RTSPResponse::timestamp` -/
  timestamp : Bytes
  /-- `Clock::now` -/
  now : Int
  /-- the value of each load of `outbox_bytes_` -/
  outboxLoad : Nat → Nat

/-- A call that returns, or an exception with the state it leaves behind. -/
abbrev Handled (M : Type) := Except (Session M) (Session M)

variable {M : Type}

namespace Session

def emit (e : Event) (s : Session M) : Session M := { s with log := s.log ++ [e] }

/-- `nptRange`. -/
def nptRange (secs : Rat) : Bytes := ascii "npt=" ++ toFixed3 secs ++ ascii "-"

/-! ## Sending -/

def sendResponse (resp : RTSPResponse) (s : Session M) : Session M := s.emit (.response resp)

/-- `static_cast<uint8_t>` of an `int`. -/
def toByte (v : Int) : UInt8 := UInt8.ofNat (v % 256).toNat

/-- The frame that `pushTCPFrame` builds: `$`, the channel, the length and the packet. -/
def tcpFrame (channel : Int) (rtp : Bytes) : Bytes :=
  let len := UInt16.ofNat rtp.length
  36 :: toByte channel :: (len >>> 8).toUInt8 :: (len &&& 0xFF).toUInt8 :: rtp

/-- `pushTCPFrame`. -/
def pushTCPFrame (env : Env M) (track : Track) (channel : Int) (rtp : Bytes) (s : Session M) :
    Session M :=
  if WriteWake.kOutboxHWM < env.outboxLoad s.loads then
    { s with loads := s.loads + 1, closeAfterWrite := true }.emit (.dropped track rtp)
  else { s with loads := s.loads + 1 }.emit (.interleaved track (tcpFrame channel rtp))

/-- `RTPSender::send` through a sender, if there is one. -/
def sendDatagram (track : Track) (sender : Option UdpSender) (rtp : Bytes) (s : Session M) :
    Session M :=
  match sender with
  | some ⟨some dest⟩ => s.emit (.datagram track dest rtp)
  | _ => s.emit (.dropped track rtp)

/-- `payload_type_`, which nothing assigns. -/
def payloadType : Int := 96

/-- `audio_payload_type_`, which nothing assigns. -/
def audioPayloadType : Int := 97

def sendVideoRTP (env : Env M) (payload : Bytes) (ts : UInt32) (marker : Bool)
    (s : Session M) : Session M :=
  let pkt := RTPPacket.build payload (toByte payloadType) s.rtpSeq ts s.ssrc marker
  let s := { s with rtpSeq := s.rtpSeq + 1 }
  if s.useTcp then s.pushTCPFrame env .video s.rtpChannel pkt
  else s.sendDatagram .video s.rtpSender pkt

def sendAudioRTP (env : Env M) (rtp : Bytes) (s : Session M) : Session M :=
  if s.useTcp then s.pushTCPFrame env .audio s.audioRtpChannel rtp
  else s.sendDatagram .audio s.audioRtpSender rtp

def sendError (env : Env M) (cseq code : Int) (reason : String) (s : Session M) : Session M :=
  s.sendResponse (RTSPResponse.error env.timestamp cseq code (ascii reason))

/-! ## OPTIONS and DESCRIBE -/

def handleOptions (env : Env M) (req : RTSPRequest) (s : Session M) : Session M :=
  s.sendResponse (RTSPResponse.options env.timestamp req.cseq
    (ascii "OPTIONS, DESCRIBE, SETUP, PLAY, PAUSE, TEARDOWN"))

/-- `rel.front() == '/'` and then `rel.substr(1)`. -/
def dropSlash : Bytes → Bytes
  | [] => []
  | c :: rest => if c = 47 then rest else c :: rest

/-- The path of a URL relative to the media root, as `openMedia` computes it. -/
def relativePath (urlPath : Bytes) : Bytes :=
  dropSlash (stripTrackSuffix (dropSlash (urlDecode urlPath)))

/-- `*path.begin()`: the first component. -/
def firstComponent (path : Bytes) : Bytes :=
  if path.head? = some 47 then [47] else path.takeWhile (· ≠ 47)

/-- The traversal check of `openMedia`. -/
def escaped (fs : Filesystem) (root full : Bytes) : Bool :=
  match fs.relative (fs.weaklyCanonical full) (fs.weaklyCanonical root) with
  | none => true
  | some rel => rel ≠ [] && firstComponent rel = ascii ".."

/-- `openMedia`: whether it opened, and the session. -/
def openMedia (env : Env M) (url : Bytes) (cseq : Int) (s : Session M) : Bool × Session M :=
  let path := urlPath url
  if path = [] ∨ path = ascii "/" then (false, s.sendError env cseq 404 "Not Found")
  else
    let full := env.fs.append s.mediaRoot (relativePath path)
    if escaped env.fs s.mediaRoot full then (false, s.sendError env cseq 403 "Forbidden")
    else if ¬ env.fs.isPresent full then (false, s.sendError env cseq 404 "Not Found")
    else
      match env.openSource full with
      | none =>
          (false, { s.sendError env cseq 415 "Unsupported Media Type" with mediaSource := none })
      | some source => (true, { s with mediaSource := some source })

/-- The name of the stream in the description. -/
def streamName (url : Bytes) : Bytes := stripTrackSuffix (dropSlash (urlPath url))

variable [IMediaSource M]

open IMediaSource

def handleDescribe (env : Env M) (req : RTSPRequest) (s : Session M) : Session M :=
  match openMedia env req.url req.cseq { s with mediaSource := none } with
  | (false, s) => s
  | (true, s) =>
      match s.mediaSource with
      | none => s
      | some source =>
          let sdp := SDPBuilder.build (streamInfo source) (ascii "0.0.0.0") (streamName req.url)
            req.url payloadType (audioInfo source) audioPayloadType
          { s with describeDone := true }.sendResponse
            (RTSPResponse.describe env.timestamp req.cseq sdp (req.url ++ ascii "/"))

/-! ## SETUP -/

/-- The channels of `interleaved=a-b` in a Transport header; the old ones where the header has
    none. On an exception of `std::stoi` the channels as they are then. -/
def parseChannels (hdr : Bytes) (old : Int × Int) : Except (Int × Int) (Int × Int) :=
  match find hdr (ascii "interleaved=") 0 with
  | none => .ok old
  | some p =>
      match find hdr (ascii "-") (p + 12) with
      | none => .ok old
      | some dash =>
          match stoi (substr hdr (p + 12) (dash - (p + 12))) with
          | none => .error old
          | some rtp =>
              match stoi (hdr.drop (dash + 1)) with
              | none => .error (rtp, old.2)
              | some rtcp => .ok (rtp, rtcp)

/-- The text of `client_port=` in a Transport header that `std::stoi` reads. -/
def clientPortText (hdr : Bytes) : Option Bytes :=
  match find hdr (ascii "client_port=") 0 with
  | none => none
  | some p =>
      match (find hdr (ascii "-") (p + 12)).or (find hdr (ascii ";") (p + 12)) with
      | none => some (hdr.drop (p + 12))
      | some dash => some (substr hdr (p + 12) (dash - (p + 12)))

def channels (track : Track) (s : Session M) : Int × Int :=
  match track with
  | .video => (s.rtpChannel, s.rtcpChannel)
  | .audio => (s.audioRtpChannel, s.audioRtcpChannel)

def setChannels (track : Track) (c : Int × Int) (s : Session M) : Session M :=
  match track with
  | .video => { s with rtpChannel := c.1, rtcpChannel := c.2 }
  | .audio => { s with audioRtpChannel := c.1, audioRtcpChannel := c.2 }

def setReady (track : Track) (s : Session M) : Session M :=
  match track with
  | .video => { s with transportReady := true }
  | .audio => { s with audioTransportReady := true }

def setSender (track : Track) (sender : UdpSender) (s : Session M) : Session M :=
  match track with
  | .video => { s with rtpSender := some sender }
  | .audio => { s with audioRtpSender := some sender }

/-- The last lines of `handleSetup`: the state and the answer. -/
def setupDone (env : Env M) (req : RTSPRequest) (track : Track) (transport : Bytes)
    (s : Session M) : Session M :=
  let s := if track = .video then { s with state := .ready } else s
  s.sendResponse (RTSPResponse.setup env.timestamp req.cseq s.sessionId transport)

def tcpTransport (c : Int × Int) : Bytes :=
  ascii "RTP/AVP/TCP;unicast;interleaved=" ++ toDec c.1 ++ ascii "-" ++ toDec c.2

def setupTcp (env : Env M) (req : RTSPRequest) (hdr : Bytes) (track : Track) (s : Session M) :
    Handled M :=
  let s := { s with useTcp := true }
  match parseChannels hdr (s.channels track) with
  | .error c => .error (s.setChannels track c)
  | .ok c => .ok (((s.setChannels track c).setReady track).setupDone env req track (tcpTransport c))

def udpTransport (clientPort serverPort : UInt16) : Bytes :=
  ascii "RTP/AVP;unicast;client_port=" ++ natDigits clientPort.toNat ++ ascii "-" ++
    natDigits (clientPort.toNat + 1) ++ ascii ";server_port=" ++ natDigits serverPort.toNat ++
    ascii "-" ++ natDigits (serverPort + 1).toNat

/-- `static_cast<uint16_t>` of an `int`. -/
def toPort (v : Int) : UInt16 := UInt16.ofNat (v % 65536).toNat

def setupUdp (env : Env M) (req : RTSPRequest) (hdr : Bytes) (track : Track) (s : Session M) :
    Handled M :=
  let s := { s with useTcp := false }
  match clientPortText hdr with
  | none => .ok (s.sendError env req.cseq 461 "Unsupported Transport")
  | some text =>
      match stoi text with
      | none => .error s
      | some v =>
          let port := toPort v
          match env.setupUDP s.clientIp port with
          | none =>
              .ok ((s.setSender track ⟨none⟩).sendError env req.cseq 500 "Internal Server Error")
          | some srvPort =>
              .ok (((s.setSender track ⟨some (s.clientIp, port)⟩).setReady track).setupDone env req
                track (udpTransport port srvPort))

/-- The track of a URL. -/
def trackOf (url : Bytes) : Track :=
  if (find url (ascii "trackID=1") 0).isSome then .audio else .video

/-- The Transport header asks for interleaving. -/
def wantsTcp (hdr : Bytes) : Bool :=
  (find hdr (ascii "RTP/AVP/TCP") 0).isSome || (find hdr (ascii "interleaved") 0).isSome

def handleSetup (env : Env M) (req : RTSPRequest) (s : Session M) : Handled M :=
  if s.describeDone = false ∨ s.mediaSource.isNone then
    .ok (s.sendError env req.cseq 455 "Method Not Valid In This State")
  else
    let hdr := req.header (ascii "transport")
    if hdr = [] then .ok (s.sendError env req.cseq 400 "Bad Request")
    else if wantsTcp hdr then setupTcp env req hdr (trackOf req.url) s
    else setupUdp env req hdr (trackOf req.url) s

/-! ## PLAY, PAUSE and TEARDOWN -/

def seekAndReset (nptSecs : Rat) (adjustOffset : Bool) (s : Session M) : Session M :=
  match s.mediaSource with
  | none => s
  | some source =>
      let source := seekToSeconds nptSecs source
      let idrRtp := rtpOffset source
      let source :=
        if adjustOffset ∧ s.lastVideoRtp ≠ 0 ∧ idrRtp < s.lastVideoRtp then
          adjustRTPOffset (s.lastVideoRtp - idrRtp) source
        else source
      { s with mediaSource := some source, firstFrame := true, pendingVp := none,
               pendingAp := none }.emit .sought

/-- What `handlePlay` reads from the Range header: the start, if there is one, and the end, or
    -1. -/
def parseRange (env : Env M) (hdr : Bytes) : Option Rat × Rat :=
  match find hdr (ascii "npt=") 0 with
  | none => (none, -1)
  | some p =>
      let val := hdr.drop (p + 4)
      match find val (ascii "-") 0 with
      | none => (none, -1)
      | some dash =>
          let start := val.take dash
          let stop := val.drop (dash + 1)
          (if start ≠ [] ∧ start ≠ ascii "now" then env.stod start else none,
            if stop ≠ [] then (env.stod stop).getD (-1) else -1)

/-- The URL of a track in the RTP-Info header. -/
def trackUrl (url : Bytes) (name : String) : Bytes :=
  (if url ≠ [] ∧ url.getLast? ≠ some 47 then url ++ [47] else url) ++ ascii name

/-- One entry of the RTP-Info header. -/
def rtpInfoEntry (url : Bytes) (seq : UInt16) (rtptime : UInt32) : Bytes :=
  ascii "url=" ++ url ++ ascii ";seq=" ++ natDigits seq.toNat ++ ascii ";rtptime=" ++
    natDigits rtptime.toNat

/-- Case A: resume from PAUSE. -/
def resumePlay (env : Env M) (s : Session M) : Session M :=
  if s.pauseStart ≠ 0 then
    { s with wallStart := if s.firstFrame then s.wallStart
                          else s.wallStart + (env.now - s.pauseStart)
             pauseStart := 0 }
  else s

/-- Case C: fresh play or seek; the pacing state starts again. -/
def freshPlay (start : Rat) (stop : Rat) (s : Session M) : Session M :=
  { s.seekAndReset start false with
    loopVideoOffset := 0, audioLoopOffset := 0, lastVideoRtp := 0, lastFrameDur := none
    resumeWaitingForIdr := true, lastKeyframeNpt := 0, lastNpt := 0, nptEnd := stop
    pauseStart := 0 }

/-- The RTP-Info header of a fresh play. -/
def rtpInfo (url : Bytes) (s : Session M) : Bytes × Session M :=
  match s.mediaSource with
  | none => (rtpInfoEntry (trackUrl url "trackID=0") s.rtpSeq 0, s)
  | some source =>
      let (rtptime, source) := peekNextVideoRTPTimestamp source
      let s := { s with mediaSource := some source }
      (rtpInfoEntry (trackUrl url "trackID=0") s.rtpSeq rtptime ++
        if s.audioTransportReady && (audioInfo source).present then
          ascii "," ++ rtpInfoEntry (trackUrl url "trackID=1") s.audioRtpSeq (audioRTPOffset source)
        else [], s)

/-- `state_ = PLAYING` and the answer. -/
def playDone (env : Env M) (req : RTSPRequest) (range rtpInfo : Bytes) (s : Session M) :
    Session M :=
  { s with state := .playing }.sendResponse
    (RTSPResponse.play env.timestamp req.cseq s.sessionId range rtpInfo)

def handlePlay (env : Env M) (req : RTSPRequest) (s : Session M) : Session M :=
  if s.state = .init then s.sendError env req.cseq 455 "Method Not Valid In This State"
  else
    let hasScale := req.header (ascii "scale") ≠ []
    let range := parseRange env (req.header (ascii "range"))
    let current := nptRange (max 0 s.lastNpt)
    if s.state = .paused then (s.resumePlay env).playDone env req current []
    else if hasScale then (s.seekAndReset s.lastKeyframeNpt true).playDone env req current []
    else
      let (info, s) := (s.freshPlay (range.1.getD 0) range.2).rtpInfo req.url
      s.playDone env req ((range.1.map nptRange).getD (ascii "npt=0.000-")) info

def handlePause (env : Env M) (req : RTSPRequest) (s : Session M) : Session M :=
  if s.state ≠ .playing then s.sendError env req.cseq 455 "Method Not Valid In This State"
  else
    let resp := RTSPResponse.ok env.timestamp req.cseq s.sessionId
    let resp := if s.mediaSource.isSome then resp.set "Range" (nptRange (max 0 s.lastNpt)) else resp
    { s with pauseStart := env.now, state := .paused }.sendResponse resp

def handleTeardown (env : Env M) (req : RTSPRequest) (s : Session M) : Session M :=
  { { s with state := .init }.sendResponse (RTSPResponse.ok env.timestamp req.cseq s.sessionId) with
    closeAfterWrite := true }

def handleRequest (env : Env M) (req : RTSPRequest) (s : Session M) : Handled M :=
  if req.method = ascii "OPTIONS" then .ok (s.handleOptions env req)
  else if req.method = ascii "DESCRIBE" then .ok (s.handleDescribe env req)
  else if req.method = ascii "SETUP" then s.handleSetup env req
  else if req.method = ascii "PLAY" then .ok (s.handlePlay env req)
  else if req.method = ascii "PAUSE" then .ok (s.handlePause env req)
  else if req.method = ascii "TEARDOWN" then .ok (s.handleTeardown env req)
  else .ok (s.sendError env req.cseq 501 "Not Implemented")

end Session

end RtspServer
