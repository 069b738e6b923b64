/-
  Model of the whole life of a `MediaSource`: the object with its three handles, each of which may
  be null, `open` with every way it fails, `close`, and the calls on an object that is open or not.
  `media/MediaSource.lean` is the object while it is open; here a call goes on with that model once
  it has found its handles, and is `none` where it would go on with a null pointer or with the
  stream of index -1.

  `close` does not reset everything: the frame that a peek left waiting, the parameter sets and the
  duration stay, and the next file inherits them. `Life` says so: it is what the object is to its
  user, a source or what a closed one keeps, and no other trace of the past (`calls_refine`).
-/
import RtspServer.Lib.Calls
import RtspServer.Media.ParameterSets

namespace RtspServer

open ByteString

inductive MediaType where
  | video
  | audio
  deriving DecidableEq

/-- What `open` reads of an `AVStream` and of its `codecpar`. -/
structure AVStream where
  /-- `codec_id` is `AV_CODEC_ID_H264` -/
  isH264 : Bool
  timeBase : TimeBase
  width : Int
  height : Int
  /-- empty for a null pointer -/
  extradata : Bytes
  sampleRate : Int
  channels : Int

/-- The calls of the library that `open` makes, beside those of an opened source. -/
class FFmpegOpen (D B : Type) extends FFmpeg D B where
  /-- `avformat_open_input`, `none` when it returns a negative value -/
  openInput : Bytes → Option D
  findStreamInfo : D → D
  /-- `av_find_best_stream`, negative when there is none -/
  findBestStream : MediaType → D → Int
  /-- `fmt_ctx_->streams[i]` -/
  streamAt : Int → D → AVStream
  /-- `AVFormatContext::duration` -/
  duration : D → Int
  /-- `make_bsf_context("h264_mp4toannexb")` -/
  makeBsf : Option B
  /-- `avcodec_parameters_copy` and `av_bsf_init`, `none` when the latter fails -/
  bsfInit : AVStream → B → Option B

/-- Which of its packets `open` can allocate. -/
structure Allocs where
  pkt : Bool
  audioPkt : Bool

theorem clockRate_pos : 0 < 90000 := by decide

theorem audioRate_pos : 0 < 44100 := by decide

/-- `AudioStreamInfo {}`. -/
def noAudio : AudioStreamInfo := { present := false, sampleRate := 0, channels := 0, asc := [] }

/-- A `MediaSource`: `none` and `false` are null pointers. -/
structure MediaObject (D B : Type) where
  fmtCtx : Option D
  bsfCtx : Option B
  pkt : Bool
  videoIdx : Int
  timeBase : TimeBase
  streamInfo : H264StreamInfo
  audioInfo : AudioStreamInfo
  audioIdx : Int
  audioTimeBase : TimeBase
  audioFirstPts : Int
  audioRtpOffset : UInt32
  audioPkt : Bool
  audioQueue : List AudioPacket
  rtpOffset : UInt32
  firstPts : Int
  bsfAtEof : Bool
  prefetchVp : Option VideoPacket

namespace MediaObject

variable {D B : Type}

/-- A default-constructed object. -/
def new : MediaObject D B :=
  { fmtCtx := none, bsfCtx := none, pkt := false, videoIdx := -1
    timeBase := ⟨1, 90000, Nat.one_pos, clockRate_pos⟩, streamInfo := MediaSource.noSets
    audioInfo := noAudio, audioIdx := -1, audioTimeBase := ⟨1, 44100, Nat.one_pos, audioRate_pos⟩
    audioFirstPts := avNoPtsValue, audioRtpOffset := 0, audioPkt := false, audioQueue := []
    rtpOffset := 0, firstPts := avNoPtsValue, bsfAtEof := false, prefetchVp := none }

def close (o : MediaObject D B) : MediaObject D B :=
  { o with
    audioPkt := false, audioQueue := [], pkt := false, bsfCtx := none, fmtCtx := none
    videoIdx := -1, audioIdx := -1, firstPts := avNoPtsValue, audioFirstPts := avNoPtsValue
    rtpOffset := 0, audioRtpOffset := 0, audioInfo := noAudio, bsfAtEof := false }

/-- The opened source: the object with the demuxer it has. -/
def source (d : D) (o : MediaObject D B) : MediaSource D B :=
  { fmtCtx := d, bsfCtx := o.bsfCtx, videoIdx := o.videoIdx, timeBase := o.timeBase
    streamInfo := o.streamInfo, audioInfo := o.audioInfo, audioIdx := o.audioIdx
    audioTimeBase := o.audioTimeBase, audioFirstPts := o.audioFirstPts
    audioRtpOffset := o.audioRtpOffset, audioQueue := o.audioQueue, rtpOffset := o.rtpOffset
    firstPts := o.firstPts, bsfAtEof := o.bsfAtEof, prefetchVp := o.prefetchVp }

/-- The object after a call that went on with the opened source. -/
def store (m : MediaSource D B) (o : MediaObject D B) : MediaObject D B :=
  { fmtCtx := some m.fmtCtx, bsfCtx := m.bsfCtx, pkt := o.pkt, videoIdx := m.videoIdx
    timeBase := m.timeBase, streamInfo := m.streamInfo, audioInfo := m.audioInfo
    audioIdx := m.audioIdx, audioTimeBase := m.audioTimeBase, audioFirstPts := m.audioFirstPts
    audioRtpOffset := m.audioRtpOffset, audioPkt := o.audioPkt, audioQueue := m.audioQueue
    rtpOffset := m.rtpOffset, firstPts := m.firstPts, bsfAtEof := m.bsfAtEof
    prefetchVp := m.prefetchVp }

variable [FFmpegOpen D B]

open FFmpeg FFmpegOpen

/-- The audio stream of `open`, which is optional. -/
def openAudio (audioPkt : Bool) (d : D) (o : MediaObject D B) : MediaObject D B :=
  let o := { o with audioIdx := findBestStream B .audio d }
  if 0 ≤ o.audioIdx then
    let st := streamAt B o.audioIdx d
    let o := { o with
      audioTimeBase := st.timeBase
      audioInfo :=
        { present := true, sampleRate := st.sampleRate, channels := st.channels
          asc := if 2 ≤ st.extradata.length then st.extradata else o.audioInfo.asc }
      audioPkt := audioPkt }
    if audioPkt then o else { o with audioIdx := -1, audioInfo := noAudio }
  else { o with audioIdx := -1 }

/-- `is_avcc`. -/
def isAvcc (extra : Bytes) : Bool := 4 ≤ extra.length ∧ extra.head? = some 0x01

/-- The bitstream filter of `open`: whether `open` goes on. -/
def installBsf (st : AVStream) (o : MediaObject D B) : Bool × MediaObject D B :=
  if isAvcc st.extradata then
    match makeBsf D (B := B) with
    | none => (false, { o with fmtCtx := none })
    | some b =>
        match bsfInit D st b with
        | none => (false, { o with bsfCtx := none, fmtCtx := none })
        | some b => (true, { o with bsfCtx := some b })
  else (true, o)

/-- The sizes and the duration of the stream; a duration that is not known leaves the old one. -/
def measured (d : D) (st : AVStream) (info : H264StreamInfo) : H264StreamInfo :=
  { info with
    width := st.width
    height := st.height
    durationSecs :=
      if duration B d ≠ avNoPtsValue ∧ 0 < duration B d then (duration B d : Rat) / 1000000
      else info.durationSecs }

/-- `open` once it has the container and looked for the video stream. -/
def openStreams (alloc : Allocs) (d : D) (o : MediaObject D B) :
    Option (Bool × MediaObject D B) :=
  if o.videoIdx < 0 then some (false, { o with fmtCtx := none })
  else
    let st := streamAt B o.videoIdx d
    if st.isH264 = false then some (false, { o with fmtCtx := none })
    else
      -- that there are no parameter sets is only logged
      match MediaSource.parseExtradata st.extradata (measured (B := B) d st o.streamInfo) with
      | none => none
      | some (_, info) =>
          match installBsf st { o with timeBase := st.timeBase, streamInfo := info } with
          | (false, o) => some (false, o)
          | (true, o) =>
              if alloc.pkt then
                some (true, openAudio alloc.audioPkt d { o with pkt := true })
              else some (false, o.close)

/-- `MediaSource::open`. -/
def openSource (path : Bytes) (alloc : Allocs) (o : MediaObject D B) :
    Option (Bool × MediaObject D B) :=
  match openInput B path with
  | none => some (false, o.close)
  | some d =>
      let d := findStreamInfo B d
      openStreams alloc d
        { o.close with fmtCtx := some d, videoIdx := findBestStream B .video d }

def isOpen (o : MediaObject D B) : Bool := o.fmtCtx.isSome

/-- `duration`, in seconds. -/
def durationSecs (o : MediaObject D B) : Rat :=
  match o.fmtCtx with
  | none => 0
  | some d => if duration B d = avNoPtsValue then 0 else (duration B d : Rat) / 1000000

def readPacket (o : MediaObject D B) : Option (Option VideoPacket × MediaObject D B) :=
  match o.prefetchVp with
  | some vp => some (some vp, { o with prefetchVp := none })
  | none =>
      if o.pkt = false then some (none, o)
      else
        match o.fmtCtx with
        | none => none
        | some d =>
            let (r, m) := (o.source d).readLoop (remaining B d + 2)
            some (r, o.store m)

def readAudioPacket (o : MediaObject D B) : Option AudioPacket × MediaObject D B :=
  if o.audioIdx < 0 then (none, o)
  else
    match o.audioQueue with
    | [] => (none, o)
    | ap :: rest => (some ap, { o with audioQueue := rest })

def seek (offset : UInt32) (o : MediaObject D B) : MediaObject D B :=
  match o.fmtCtx with
  | none => o
  | some d => o.store ((o.source d).seek offset)

/-- `seekToSeconds`. Where the first seek succeeds, the probe reads into a packet that it
    allocates, and does not look whether it got one. -/
def seekToSeconds (secs : Rat) (probePkt : Bool) (o : MediaObject D B) :
    Option (MediaObject D B) :=
  match o.fmtCtx with
  | none => some (o.seek 0)
  | some d =>
      let m := o.source d
      if secs < 0 then some (o.seek 0)
      else if m.videoIdx < 0 then none
      else if (seekFrame B (MediaSource.targetTs secs m.timeBase) m.fmtCtx).1 && !probePkt then none
      else some (o.store (m.seekToSeconds secs))

def adjustRTPOffset (delta : UInt32) (o : MediaObject D B) : MediaObject D B :=
  { o with
    rtpOffset := o.rtpOffset + delta
    audioRtpOffset :=
      if o.audioInfo.present && 0 < o.audioInfo.sampleRate then
        o.audioRtpOffset + MediaSource.audioTicks delta o.audioInfo.sampleRate
      else o.audioRtpOffset }

def peekNextVideoRTPTimestamp (o : MediaObject D B) : Option (UInt32 × MediaObject D B) :=
  match o.fmtCtx with
  | none => some (0, o)
  | some _ =>
      match o.prefetchVp with
      | some vp => some (vp.rtpTimestamp, o)
      | none =>
          match o.readPacket with
          | none => none
          | some (none, o) => some (0, o)
          | some (some vp, o) => some (vp.rtpTimestamp, { o with prefetchVp := some vp })

end MediaObject

end RtspServer
