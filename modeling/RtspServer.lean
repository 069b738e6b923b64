import RtspServer.Rtsp.Request
import RtspServer.Lib.Incremental
import RtspServer.Server.Framer
import RtspServer.Server.FramerRuns
import RtspServer.Server.FramerBoundary
import RtspServer.Lib.Lts
import RtspServer.Server.WriteWake
import RtspServer.Server.PacerSlot
import RtspServer.Rtsp.Response
import RtspServer.Sdp.SDPBuilder
import RtspServer.Server.Routing
import RtspServer.Media.IMediaSource
import RtspServer.Rtp.RTPPacket
import RtspServer.Server.Session
import RtspServer.Server.PacerTick
import RtspServer.Server.SessionRuns
import RtspServer.Media.AnnexBParser
import RtspServer.Media.MediaSource
import RtspServer.Server.SessionState
import RtspServer.Server.SendPath
import RtspServer.Server.Schedule
import RtspServer.Server.WriteClose
import RtspServer.Server.AfterClose
import RtspServer.Server.PacerMoves
import RtspServer.Server.SessionMoves
import RtspServer.Server.RestartOnKey
import RtspServer.Server.PassFrames
import RtspServer.Server.PacerEmits
import RtspServer.Server.TrackTransport
import RtspServer.Server.DescribedSource
import RtspServer.Media.Reading
import RtspServer.Media.SeekFlush
import RtspServer.Server.Interleaving
import RtspServer.Server.RtpTime
import RtspServer.Server.LoopTime
import RtspServer.Server.OutboxBytes
import RtspServer.Lib.LexicalPath
import RtspServer.Server.MediaRoot
import RtspServer.Server.Descriptors
import RtspServer.Server.LogicWake
import RtspServer.Lib.Threads
import RtspServer.Utils.BlockingQueue
import RtspServer.Utils.ThreadPool
import RtspServer.Server.RejectedSetup
import RtspServer.Server.SetupAnswer
import RtspServer.Rtsp.RequestText
import RtspServer.Server.PausedTime
import RtspServer.Media.Landing
import RtspServer.Server.AudioAnchor
import RtspServer.Server.DueFrames
import RtspServer.Server.KeyPosition
import RtspServer.Server.FirstPackets
import RtspServer.Lib.Hex
import RtspServer.Lib.PercentEncoding
import RtspServer.Utils.UrlDecode
import RtspServer.Server.MediaUrl
import RtspServer.Lib.Base64
import RtspServer.Sdp.SDPReader
import RtspServer.Lib.AccessUnits
import RtspServer.Server.AudioPayload
import RtspServer.Lib.LengthPrefixed
import RtspServer.Media.Extradata
import RtspServer.Rtp.RTPSender
import RtspServer.Media.Demuxing
import RtspServer.Lib.Lookahead
import RtspServer.Media.Peeking
import RtspServer.Media.Anchors
import RtspServer.Server.Delivery
import RtspServer.Server.Connection
import RtspServer.Server.Reactor
import RtspServer.Server.Releases
import RtspServer.Utils.PoolClosing
import RtspServer.Server.Lifecycle
import RtspServer.Server.Shutdown
import RtspServer.Server.ShutdownWakes
import RtspServer.Server.Protocol
import RtspServer.Server.Numbering
import RtspServer.Lib.Marked
import RtspServer.Server.Playback
import RtspServer.Server.RangeEnd
import RtspServer.Lib.Calls
import RtspServer.Media.Opening
import RtspServer.Media.Reopening
import RtspServer.Media.ParameterSets
import RtspServer.Server.FileDescription
import RtspServer.Server.Handshake
