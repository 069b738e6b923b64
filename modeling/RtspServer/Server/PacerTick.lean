/-
  Model of `RTSPSession::pacerTick`: the commands of the session are handled, then at most one
  video frame and the audio packets that are due are sent. The numbered steps of the source are
  one definition each; a step that may return from the tick says so in its result.

  Send times are computed in `double`, which is Lean's `Float`: the quotient and the nanoseconds
  are rounded before the cast. The positions of step 8b, the end of a range and the sample that a
  90 kHz timestamp stands for (`rescaleToRate`) are computed in rational numbers.

  The audio loop reads until the source has no packet left or one is not due yet. It runs on
  fuel; `IMediaSource.audioQueued_lt` makes the number of queued packets enough.
-/
import RtspServer.Server.Session

namespace RtspServer

open ByteString

variable {M : Type}

namespace Session

/-! ## Times -/

/-- `duration_cast<Clock::duration>` of seconds in `double`: whole nanoseconds, toward zero. -/
def durationCast (secs : Float) : Int := (secs * 1000000000).toModel.toInt64.toInt

/-- 15.7 ms at 90 kHz are a nanosecond less in `double`. -/
example : durationCast ((1413 : UInt32).toFloat / 90000) = 15699999 := by decide +kernel

/-- `vp.rtp_timestamp - loop_video_offset_` in `uint32_t`: the offset of the frame from the
    anchor in 90 kHz ticks. -/
def mediaTicks (vp : VideoPacket) (s : Session M) : Nat :=
  (vp.rtpTimestamp - s.loopVideoOffset).toNat

/-- `media_secs`. -/
def mediaSecs (vp : VideoPacket) (s : Session M) : Float :=
  (vp.rtpTimestamp - s.loopVideoOffset).toFloat / 90000

/-- `send_time`. -/
def sendTime (vp : VideoPacket) (s : Session M) : Int := s.wallStart + durationCast (s.mediaSecs vp)

/-- `static_cast<uint32_t>(static_cast<double>(ticks) / 90000.0 * rate)` for a positive rate. -/
def rescaleToRate (ticks : UInt32) (rate : Int) : UInt32 :=
  UInt32.ofNat (ticks.toNat * rate.toNat / 90000)

/-- `audioIsDue`. -/
def audioIsDue (now sampleRate : Int) (ap : AudioPacket) (s : Session M) : Bool :=
  s.wallStart +
    durationCast ((ap.rtpTimestamp - s.audioLoopOffset).toFloat / Float.ofInt sampleRate) ≤ now

/-! ## The steps -/

/-- Step 2: not playing, or nothing to play. -/
def notStreaming (now : Int) (s : Session M) : Session M :=
  let s := if s.state = .paused ∧ s.pauseStart = 0 then { s with pauseStart := now } else s
  if s.state ≠ .paused then { s with pendingVp := none } else s

/-- Step 3: a pause is over. -/
def resumeClock (now : Int) (s : Session M) : Session M :=
  if s.pauseStart ≠ 0 then
    { s with wallStart := if s.firstFrame then s.wallStart
                          else s.wallStart + (now - s.pauseStart)
             pauseStart := 0 }
  else s

/-- Step 4: after a seek a held frame is stale. -/
def dropStale (s : Session M) : Session M :=
  if s.firstFrame then { s with pendingVp := none } else s

/-- Step 4b: the gate on the next key frame; false when the tick ends here. -/
def idrGate (s : Session M) : Bool × Session M :=
  if s.resumeWaitingForIdr then
    match s.pendingVp with
    | none => (true, s)
    | some vp =>
        if vp.isKeyFrame then (true, { s with resumeWaitingForIdr := false })
        else (false, { s with pendingVp := none })
  else (true, s)

variable [IMediaSource M]

open IMediaSource

/-- The end of the source in step 5: it starts again, its clock behind the last frame. -/
def loopSource (source : M) (s : Session M) : Session M :=
  { s with
    mediaSource := some (seek (s.lastVideoRtp + s.lastFrameDur.getD 0) source)
    firstFrame := true, loopVideoOffset := 0, audioLoopOffset := 0, lastVideoRtp := 0
    resumeWaitingForIdr := false, nptEnd := -1, pendingAp := none }.emit .sought

/-- The frame is at or behind the end of the range. -/
def reachedEnd (vp : VideoPacket) (s : Session M) : Bool :=
  0 < s.nptEnd && s.nptEnd ≤ (vp.rtpTimestamp.toNat : Rat) / 90000

/-- Step 5 for a packet that the source returned. -/
def acceptFrame (vp : VideoPacket) (s : Session M) : Session M :=
  if vp.nals = [] then s
  else if (s.firstFrame || s.resumeWaitingForIdr) && !vp.isKeyFrame then s
  else
    let s := { s with resumeWaitingForIdr := false }
    if s.reachedEnd vp then { s with state := .paused } else { s with pendingVp := some vp }

/-- Step 5: read the next video frame if none is held. The tick goes on when one is held
    afterwards. -/
def nextFrame (source : M) (s : Session M) : Session M :=
  match s.pendingVp with
  | some _ => s
  | none =>
      match readPacket source with
      | (none, source) => s.loopSource source
      | (some vp, source) => { s with mediaSource := some source }.acceptFrame vp

/-- Step 6: the first frame after a seek sets the clock. -/
def anchor (now : Int) (source : M) (vp : VideoPacket) (s : Session M) : Session M :=
  let s :=
    if s.resumeWaitingForIdr && vp.isKeyFrame then { s with resumeWaitingForIdr := false } else s
  if s.firstFrame then
    let sr := (audioInfo source).sampleRate
    { s with
      wallStart := now, loopVideoOffset := vp.rtpTimestamp
      audioLoopOffset := if 0 < sr then rescaleToRate vp.rtpTimestamp sr else s.audioLoopOffset
      firstFrame := false }.emit (.anchored vp now)
  else s

/-- The NAL units of step 8: on a key frame the stream's SPS and PPS first, and none in band. -/
def nalList (info : H264StreamInfo) (vp : VideoPacket) : List Bytes :=
  (if vp.isKeyFrame then [info.sps, info.pps].filter (· ≠ []) else []) ++
    vp.nals.filter fun nal =>
      match nal with
      | [] => false
      | b :: _ => !(vp.isKeyFrame && (b &&& 0x1F == 7 || b &&& 0x1F == 8))

/-- The payloads of one NAL unit; the marker is set on the last one of the last NAL unit. -/
def sendNal (env : Env M) (ts : UInt32) (lastNal : Bool) :
    List H264Packetizer.Packet → Session M → Session M
  | [], s => s
  | p :: rest, s =>
      sendNal env ts lastNal rest (s.sendVideoRTP env p.payload ts (lastNal && rest.isEmpty))

/-- The default `mtu` of `packetize`. -/
def kMtu : Nat := 1400

def sendNals (env : Env M) (ts : UInt32) : List Bytes → Session M → Session M
  | [], s => s
  | nal :: rest, s =>
      sendNals env ts rest (sendNal env ts rest.isEmpty (H264Packetizer.packetize nal kMtu) s)

/-- Step 8: build and send the video packets. -/
def sendFrame (env : Env M) (source : M) (vp : VideoPacket) (s : Session M) : Session M :=
  (s.emit (.sending vp)).sendNals env vp.rtpTimestamp (nalList (streamInfo source) vp)

/-- Step 8b: the tracking state. -/
def trackFrame (source : M) (vp : VideoPacket) (s : Session M) : Session M :=
  let npt : Rat := ((rtpOffset source).toNat : Rat) / 90000 + (s.mediaTicks vp : Rat) / 90000
  { s with
    lastKeyframeNpt := if vp.isKeyFrame then npt else s.lastKeyframeNpt
    lastNpt := npt
    lastFrameDur :=
      if s.lastVideoRtp ≠ 0 ∧ s.lastVideoRtp < vp.rtpTimestamp then
        some (vp.rtpTimestamp - s.lastVideoRtp)
      else s.lastFrameDur
    lastVideoRtp := vp.rtpTimestamp
    pendingVp := none }

/-- The AU headers of RFC 3640 in front of one audio frame: `au_size` is a `uint16_t`. -/
def audioPayload (data : Bytes) : Bytes :=
  let auSize := UInt16.ofNat data.length
  0x00 :: 0x10 :: (auSize >>> 5).toUInt8 :: ((auSize &&& 0x1F) <<< 3).toUInt8 :: data

/-- `sendOneAudio`. -/
def sendOneAudio (env : Env M) (ap : AudioPacket) (s : Session M) : Session M :=
  if ap.data = [] then s
  else
    let pkt := RTPPacket.build (audioPayload ap.data) (toByte audioPayloadType)
      s.audioRtpSeq ap.rtpTimestamp s.audioSsrc true
    { s with audioRtpSeq := s.audioRtpSeq + 1 }.sendAudioRTP env pkt

/-- The loop of step 9 over the queued audio packets. -/
def sendQueuedAudio (env : Env M) (now sampleRate : Int) : Nat → Session M → Session M
  | 0, s => s
  | fuel + 1, s =>
      match s.mediaSource with
      | none => s
      | some source =>
          match readAudioPacket source with
          | (none, source) => { s with mediaSource := some source }
          | (some ap, source) =>
              let s := { s with mediaSource := some source }
              if s.audioIsDue now sampleRate ap then
                sendQueuedAudio env now sampleRate fuel (s.sendOneAudio env ap)
              else { s with pendingAp := some ap }

/-- The held audio packet of step 9, if it is due. -/
def sendHeldAudio (env : Env M) (now sampleRate : Int) (s : Session M) : Session M :=
  match s.pendingAp with
  | none => s
  | some ap =>
      if s.audioIsDue now sampleRate ap then { s.sendOneAudio env ap with pendingAp := none }
      else s

/-- Step 9: audio that is due. -/
def paceAudio (env : Env M) (now : Int) (source : M) (s : Session M) : Session M :=
  let sampleRate := (audioInfo source).sampleRate
  if s.audioTransportReady && 0 < sampleRate then
    let s := s.sendHeldAudio env now sampleRate
    if s.pendingAp = none then s.sendQueuedAudio env now sampleRate (audioQueued source + 1)
    else s
  else s

/-- Steps 7 to 9 for the frame at hand. -/
def playFrame (env : Env M) (now : Int) (source : M) (vp : VideoPacket) (s : Session M) :
    Session M :=
  let s := s.emit (.timed vp (s.mediaTicks vp))
  if now < s.sendTime vp then s
  else ((s.sendFrame env source vp).trackFrame source vp).paceAudio env now source

/-- Steps 6 to 9. Wherever step 4b or 5 ends the tick no frame is held, so the tick goes on
    exactly when one is. -/
def pacePending (env : Env M) (now : Int) (s : Session M) : Session M :=
  match s.mediaSource, s.pendingVp with
  | some source, some vp => (s.anchor now source vp).playFrame env now source vp
  | _, _ => s

/-- Steps 3 to 5. -/
def fetchFrame (now : Int) (source : M) (s : Session M) : Session M :=
  match ((s.resumeClock now).dropStale).idrGate with
  | (false, s) => s
  | (true, s) => s.nextFrame source

/-- The tick after the commands. -/
def pace (env : Env M) (now : Int) (s : Session M) : Session M :=
  match s.mediaSource with
  | none => s.notStreaming now
  | some source =>
      if s.state ≠ .playing ∨ s.transportReady = false then s.notStreaming now
      else (s.fetchFrame now source).pacePending env now

/-- One command, popped from `cmd_queue_`. -/
def handleNext (env : Env M) (req : RTSPRequest) (rest : List RTSPRequest) (s : Session M) :
    Handled M :=
  ({ s with cmdQueue := rest }.emit (.request req)).handleRequest env req

/-- Step 1: the commands, up to a TEARDOWN; false when the tick ends here. -/
def drainCommands (env : Nat → Env M) (k : Nat) :
    List RTSPRequest → Session M → Except (Session M) (Bool × Session M)
  | [], s => .ok (true, s)
  | req :: rest, s =>
      match s.handleNext (env k) req rest with
      | .error s => .error s
      | .ok s =>
          if req.method = ascii "TEARDOWN" then .ok (false, s)
          else drainCommands env (k + 1) rest s

/-- `pacerTick`. `env k` is what the `k`-th command of the tick gets from outside; the pacing
    comes after the last one. -/
def pacerTick (env : Nat → Env M) (now : Int) (s : Session M) : Handled M :=
  match drainCommands env 0 s.cmdQueue s with
  | .error s => .error s
  | .ok (false, s) => .ok s
  | .ok (true, s') => .ok (s'.pace (env s.cmdQueue.length) now)

end Session

/-! ## Runs -/

/-- What happens to a session: Logic pushes a command, the tick handles the next one, the tick
    goes on to its pacing. -/
inductive SessionAct (M : Type) where
  | command (req : RTSPRequest)
  | handle (env : Env M)
  | pace (env : Env M) (now : Int)

/-- The session after a call, however the call ended. -/
def sessionOf : Handled M → Session M
  | .ok s => s
  | .error s => s

open Session in
/-- One step of a session; after an exception there is none. -/
def sessionStep [IMediaSource M] : Handled M → SessionAct M → Option (Handled M)
  | .ok s, .command req => some (.ok { s with cmdQueue := s.cmdQueue ++ [req] })
  | .ok s, .handle env =>
      match s.cmdQueue with
      | [] => none
      | req :: rest => some (s.handleNext env req rest)
  | .ok s, .pace env now => some (.ok (s.pace env now))
  | .error _, _ => none

end RtspServer
