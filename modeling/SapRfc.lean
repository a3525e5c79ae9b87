import SapRfc.Library.Bytes
import SapRfc.Library.Effect
import SapRfc.Library.Records
import SapRfc.Library.Spans
import SapRfc.Library.Walkers
import SapRfc.Library.BitPacking
import SapRfc.Library.Lzw
import SapRfc.Library.Runs
import SapRfc.Library.Slots
import SapRfc.Library.Waiters
import SapRfc.Program.Python
import SapRfc.Program.Invoke
import SapRfc.Program.Params
import SapRfc.Program.Requests
import SapRfc.Program.Stores
import SapRfc.Program.SqliteStores
import SapRfc.Program.Reply
import SapRfc.Program.Metadata
import SapRfc.Program.Transport
import SapRfc.Program.Wire
import SapRfc.Program.Session
import SapRfc.Program.Handshake
import SapRfc.Program.Connection
import SapRfc.Program.SyncConnection
import SapRfc.Program.Server
import SapRfc.Program.Dispatch
import SapRfc.Program.Hosted
import SapRfc.Program.Interleaved
import SapRfc.Program.Serving
import SapRfc.Program.Peer
import SapRfc.Program.AsyncPool
import SapRfc.Program.ThreadPool
import SapRfc.Program.Snc
import SapRfc.Program.Router
import SapRfc.Program.Socks5
import SapRfc.Program.GatewayFrames
import SapRfc.Program.WebSocket
import SapRfc.Program.Logon
import SapRfc.Program.Trace
import SapRfc.Program.Walkers
import SapRfc.Program.Compress
import SapRfc.Program.Parking
import SapRfc.Program.Basxml
import SapRfc.Program.Codec
import SapRfc.Analysis.TraceRedaction
import SapRfc.Analysis.Reassembly
import SapRfc.Analysis.Twins
import SapRfc.Analysis.Interchange
import SapRfc.Analysis.SncReceive
import SapRfc.Analysis.Shipping
import SapRfc.Analysis.Responses
import SapRfc.Analysis.AuthGate
import SapRfc.Analysis.AsyncDispatch
import SapRfc.Analysis.Streams
import SapRfc.Analysis.Lookups
import SapRfc.Analysis.Attribution
import SapRfc.Analysis.FailClosed
import SapRfc.Analysis.Bootstrap
import SapRfc.Analysis.SessionStates
import SapRfc.Analysis.Residue
import SapRfc.Analysis.Transactions
import SapRfc.Analysis.UnitDelivery
import SapRfc.Analysis.Units
import SapRfc.Analysis.Ledgers
import SapRfc.Analysis.Lifecycle
import SapRfc.Analysis.Interleavings
import SapRfc.Analysis.PoolSlots
import SapRfc.Analysis.PoolBounds
import SapRfc.Analysis.ThreadSlots
import SapRfc.Analysis.PoolLeaks
import SapRfc.Analysis.SingleOwner
import SapRfc.Analysis.Answers
import SapRfc.Analysis.WalkersAgree
import SapRfc.Analysis.Lz4Blocks
import SapRfc.Analysis.LzcFrames
import SapRfc.Analysis.LzcWords
import SapRfc.Analysis.LzcRoundTrip
import SapRfc.Analysis.LzcSafety
import SapRfc.Analysis.DuplicateAnswers
import SapRfc.Analysis.TextCodecs
import SapRfc.Analysis.Credentials
import SapRfc.Analysis.Redrive
import SapRfc.Analysis.Dicts
import SapRfc.Analysis.PairGroups
import SapRfc.Analysis.TableRows
import SapRfc.Analysis.RequestRecords
import SapRfc.Analysis.Replies
import SapRfc.Analysis.RoundTrips
import SapRfc.Analysis.TableForms
import SapRfc.Analysis.TableNumbers
import SapRfc.Analysis.XmlTables
import SapRfc.Analysis.XmlDocuments
import SapRfc.Analysis.RowWidths
import SapRfc.Analysis.Transports
import SapRfc.Analysis.SncRoundTrip
import SapRfc.Analysis.SncFrames
import SapRfc.Analysis.Routes
import SapRfc.Analysis.NiStreams
import SapRfc.Analysis.ConnectReplies
import SapRfc.Analysis.FrameSizes
import SapRfc.Analysis.WsMessages
import SapRfc.Analysis.LogonGroups
import SapRfc.Analysis.ServeLoops
import SapRfc.Analysis.CallTasks
import SapRfc.Analysis.Declets
import SapRfc.Analysis.Decfloat
import SapRfc.Analysis.PackedDecimals
import SapRfc.Analysis.RowLayouts
import SapRfc.Analysis.SpanBounds
import SapRfc.Analysis.FieldValues
import SapRfc.Analysis.StructureRoundTrips
import SapRfc.Analysis.CompletedRows
import SapRfc.Analysis.UnitFrames
import SapRfc.Analysis.Retries
import SapRfc.Analysis.FieldSpans
import SapRfc.Analysis.CachedDescriptors
import SapRfc.Analysis.RedriveOnce
import SapRfc.Analysis.CompactParams
import SapRfc.Analysis.LzhStreams
import SapRfc.Analysis.LzhTrees
import SapRfc.Analysis.LzhHeaders
import SapRfc.Analysis.LzhLoops
import SapRfc.Analysis.LzhWindow
import SapRfc.Analysis.LzhBlocks
import SapRfc.Analysis.NamedTables
import SapRfc.Library.Dialogues
import SapRfc.Analysis.ProxyHandshakes
import SapRfc.Analysis.RemoteCalls
import SapRfc.Library.Delimiters
import SapRfc.Analysis.WsUpgrades
import SapRfc.Analysis.UnseenSecrets
import SapRfc.Analysis.UnitsOnce
import SapRfc.Analysis.PoolCounters
import SapRfc.Analysis.Openings
