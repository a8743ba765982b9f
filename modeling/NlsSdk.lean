import NlsSdk.Library.Mux
import NlsSdk.Transport.Forward
import NlsSdk.Transport.ConnectionOutput
import NlsSdk.Transport.TerminalCallback
import NlsSdk.Transport.HandshakeBoundary
import NlsSdk.Transport.NodeManager
import NlsSdk.Transport.PoolUpgraded
import NlsSdk.Transport.TokenDeadline
import NlsSdk.Transport.PoolCredentials
import NlsSdk.Transport.DecoderBounds
import NlsSdk.Transport.Delivery
import NlsSdk.Transport.StrandedBytes
import NlsSdk.Transport.WireIntegrity
import NlsSdk.Transport.ClientFrame
import NlsSdk.Transport.SliceRetry
import NlsSdk.Transport.ResidualAudio
import NlsSdk.Transport.PoolLock
import NlsSdk.Transport.PoolHandOver
import NlsSdk.Transport.RequestPackage
import NlsSdk.Transport.UpgradeResponse
import NlsSdk.Transport.StartCall
import NlsSdk.Encoder.GranulePosition
import NlsSdk.Encoder.NlsEncoder
import NlsSdk.Transport.StopLast
import NlsSdk.Framework.ParserCodes
import NlsSdk.Framework.EventBuffers
import NlsSdk.Framework.TaskId
import NlsSdk.Transport.ReconnectOffsets
import NlsSdk.Transport.SocketDescriptors
import NlsSdk.Transport.DnsIpCache
import NlsSdk.Token.CommonClient
import NlsSdk.Token.FileTrans
import NlsSdk.Utils.DataUtils
import NlsSdk.Utils.TextUtils
import NlsSdk.Encoder.PartialFrame
import NlsSdk.Utils.ThreadData
import NlsSdk.Encoder.OpuFraming
import NlsSdk.Encoder.SessionRestart
import NlsSdk.Framework.ParserOutline
import NlsSdk.Framework.WordList
import NlsSdk.Framework.EventClassification
import NlsSdk.Transport.RequestLog
import NlsSdk.Transport.ConnectAttempts
import NlsSdk.Transport.ThreadSelection
import NlsSdk.Utils.Nlog
import NlsSdk.Encoder.OpusHeaders
import NlsSdk.Transport.Relaunches
import NlsSdk.Transport.Cancelled
import NlsSdk.Token.Url
import NlsSdk.Transport.SSLconnect
import NlsSdk.Framework.FlowingSynthesizerParam
import NlsSdk.Transport.SyncCall
import NlsSdk.Transport.AudioWithheld
import NlsSdk.Transport.ServerReads
import NlsSdk.Transport.ReleaseRequest
import NlsSdk.Transport.PoolDeletions
import NlsSdk.Transport.PoolReclaims
import NlsSdk.Transport.PoolLending
