/-
  Model of `sdp/SDPBuilder.cpp`: the description of the streams that DESCRIBE sends. The frame
  rate of `H264StreamInfo` is left out, since no line of the text reads it. The duration is a
  rational number of seconds.
-/
import RtspServer.Utils.StringUtils

namespace RtspServer

open ByteString Decimal StringUtils

structure H264StreamInfo where
  sps : Bytes
  pps : Bytes
  width : Int
  height : Int
  durationSecs : Rat
  deriving DecidableEq

structure AudioStreamInfo where
  present : Bool
  sampleRate : Int
  channels : Int
  asc : Bytes
  deriving DecidableEq

namespace SDPBuilder

/-- One hex digit, `letter` being the code of the digit for 10. -/
def hexDigit (letter : Nat) (n : Nat) : UInt8 :=
  if n < 10 then UInt8.ofNat (48 + n) else UInt8.ofNat (letter + (n - 10))

/-- A byte as two hex digits. -/
def hexByte (letter : Nat) (b : UInt8) : Bytes :=
  [hexDigit letter (b.toNat / 16), hexDigit letter (b.toNat % 16)]

/-- Three bytes of the SPS in upper-case hex, or Baseline 3.1 when it is too short. -/
def profileLevelId (sps : Bytes) : Bytes :=
  match sps with
  | _ :: a :: b :: c :: _ => hexByte 65 a ++ hexByte 65 b ++ hexByte 65 c
  | _ => ascii "42001f"

/-- The session section. -/
def sessionSection (info : H264StreamInfo) (serverIp streamName baseUrl : Bytes) : Bytes :=
  ascii "v=0\r\n" ++ ascii "o=- 1000 1 IN IP4 " ++ serverIp ++ ascii "\r\n" ++
    ascii "s=" ++ streamName ++ ascii "\r\n" ++ ascii "c=IN IP4 0.0.0.0\r\n" ++
    ascii "t=0 0\r\n" ++
    (if 0 < info.durationSecs then
      ascii "a=range:npt=0-" ++ toFixed3 info.durationSecs ++ ascii "\r\n"
    else []) ++
    ascii "a=recvonly\r\n" ++ ascii "a=control:" ++ baseUrl ++ ascii "\r\n" ++
    ascii "a=tool:rtsp-server\r\n"

/-- The media section of the H.264 track. -/
def videoSection (info : H264StreamInfo) (pt : Int) : Bytes :=
  ascii "m=video 0 RTP/AVP " ++ toDec pt ++ ascii "\r\n" ++
    ascii "a=rtpmap:" ++ toDec pt ++ ascii " H264/90000\r\n" ++
    ascii "a=fmtp:" ++ toDec pt ++ ascii " packetization-mode=1" ++
    ascii ";sprop-parameter-sets=" ++ base64Encode info.sps ++ ascii "," ++
    base64Encode info.pps ++
    ascii ";profile-level-id=" ++ profileLevelId info.sps ++ ascii "\r\n" ++
    ascii "a=cliprect:0,0," ++ toDec info.height ++ ascii "," ++ toDec info.width ++
    ascii "\r\n" ++
    ascii "a=framesize:" ++ toDec pt ++ ascii " " ++ toDec info.width ++ ascii "-" ++
    toDec info.height ++ ascii "\r\n" ++ ascii "a=control:trackID=0\r\n"

/-- The media section of the AAC track, if the file has one. -/
def audioSection (audio : AudioStreamInfo) (pt : Int) : Bytes :=
  if audio.present then
    ascii "m=audio 0 RTP/AVP " ++ toDec pt ++ ascii "\r\n" ++
      ascii "a=rtpmap:" ++ toDec pt ++ ascii " MPEG4-GENERIC/" ++ toDec audio.sampleRate ++
      ascii "/" ++ toDec audio.channels ++ ascii "\r\n" ++
      ascii "a=fmtp:" ++ toDec pt ++ ascii " profile-level-id=1" ++ ascii ";mode=AAC-hbr" ++
      ascii ";sizelength=13;indexlength=3;indexdeltalength=3" ++
      (if audio.asc ≠ [] then ascii ";config=" ++ audio.asc.flatMap (hexByte 97) else []) ++
      ascii "\r\n" ++ ascii "a=control:trackID=1\r\n"
  else []

def build (info : H264StreamInfo) (serverIp streamName baseUrl : Bytes) (videoPt : Int)
    (audio : AudioStreamInfo) (audioPt : Int) : Bytes :=
  sessionSection info serverIp streamName baseUrl ++ videoSection info videoPt ++
    audioSection audio audioPt

end SDPBuilder

end RtspServer
