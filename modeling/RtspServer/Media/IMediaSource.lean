/-
  Model of `media/IMediaSource.hpp`: the packets a source returns and the interface through
  which a session uses a source. A source is a value of any type `M` with these operations;
  each returns the source as the call leaves it. `duration` and `isOpen` are left out, since
  the session calls neither.

  A NAL unit is the list of its bytes: the views of `VideoPacket::nals` point into the buffer
  that `pkt_data` keeps alive, so they are values here.
-/
import RtspServer.Sdp.SDPBuilder

namespace RtspServer

open ByteString

/-- `AV_NOPTS_VALUE`. -/
def avNoPtsValue : Int := -2 ^ 63

/-- The fields of an `AVPacket` that the server reads; `key` is `AV_PKT_FLAG_KEY`. -/
structure AVPacket where
  streamIndex : Int
  pts : Int
  dts : Int
  key : Bool
  duration : Int
  data : Bytes
  deriving DecidableEq

/-- The presentation time the server uses: `dts` when there is no `pts`. -/
def AVPacket.time (p : AVPacket) : Int := if p.pts ≠ avNoPtsValue then p.pts else p.dts

structure VideoPacket where
  nals : List Bytes
  pktData : AVPacket
  rtpTimestamp : UInt32
  isKeyFrame : Bool
  duration : Int
  deriving DecidableEq

structure AudioPacket where
  data : Bytes
  rtpTimestamp : UInt32
  deriving DecidableEq

class IMediaSource (M : Type) where
  streamInfo : M → H264StreamInfo
  audioInfo : M → AudioStreamInfo
  /-- `none` where the source returns false -/
  readPacket : M → Option VideoPacket × M
  readAudioPacket : M → Option AudioPacket × M
  seek : UInt32 → M → M
  seekToSeconds : Rat → M → M
  rtpOffset : M → UInt32
  audioRTPOffset : M → UInt32
  adjustRTPOffset : UInt32 → M → M
  peekNextVideoRTPTimestamp : M → UInt32 × M
  /-- the audio packets that can be read before the next video packet -/
  audioQueued : M → Nat
  /-- each audio packet read is one packet less -/
  audioQueued_lt : ∀ m p m', readAudioPacket m = (some p, m') → audioQueued m' < audioQueued m
  /-- the stream parameters are those of the opened file -/
  streamInfo_readPacket : ∀ m, streamInfo (readPacket m).2 = streamInfo m

end RtspServer
