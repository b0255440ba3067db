import HrServer.Lib.Splice
import HrServer.Lib.Run
import HrServer.Lib.Numerals
import HrServer.Lib.Program
import HrServer.Lib.OrderedSet
import HrServer.ByteArray.Core
import HrServer.ByteArray.CoreTheorems
import HrServer.ByteArray.Flat
import HrServer.ByteArray.Codec
import HrServer.ByteArray.Invariant
import HrServer.ByteArray.CodecTheorems
import HrServer.ByteArray.RoundTrip
import HrServer.Timers.Core
import HrServer.Timers.CoreTheorems
import HrServer.Timers.Firing
import HrServer.Io.Core
import HrServer.Io.Dispatch
import HrServer.Http.Tables
import HrServer.Http.Request
import HrServer.Http.Machine
import HrServer.Http.Parser
import HrServer.Http.ParserTheorems
import HrServer.Http.Chunking
import HrServer.Http.Session
import HrServer.Http.KeepAlive
import HrServer.Fibers.Core
import HrServer.Fibers.SingleRun
import HrServer.Hook.Core
import HrServer.Hook.CoreTheorems
import HrServer.Hook.Timeout
import HrServer.Hook.Reuse
import HrServer.Io.Table
import HrServer.Io.Accounting
import HrServer.Hook.Events
import HrServer.Hook.Managed
import HrServer.Timers.Wakeup
import HrServer.Fibers.CoreTheorems
import HrServer.Fibers.Terminal
import HrServer.Fibers.Stopping
import HrServer.Hook.Nonblock
import HrServer.Hook.FdManager
import HrServer.ByteArray.Stream
import HrServer.Fibers.Census
import HrServer.Config.Listeners
import HrServer.ByteArray.Varint
import HrServer.ByteArray.Positional
import HrServer.ByteArray.File
import HrServer.ByteArray.FailedRead
import HrServer.Lib.History
import HrServer.Http.Servlet
import HrServer.Log.FileAppender
import HrServer.Log.Formatters
import HrServer.Util.StringUtil
import HrServer.Http.Params
import HrServer.Http.LazyParams
import HrServer.Timers.Reports
import HrServer.Fibers.Dequeue
import HrServer.Util.UrlCoding
import HrServer.Http.Query
import HrServer.Http.QueryRoundTrip
import HrServer.Util.Base64
import HrServer.Util.Hex
import HrServer.Streams.FixSize
import HrServer.Streams.Tls
import HrServer.Lib.Digits
import HrServer.Log.Pattern
import HrServer.Log.PatternTheorems
import HrServer.Log.Percent
import HrServer.Net.Address
import HrServer.Lib.Ipv6
import HrServer.Lib.Bits
import HrServer.Net.Ipv6Text
import HrServer.Net.Prefix
import HrServer.Hook.Sleep
import HrServer.Io.IdleTimeout
import HrServer.Net.Lookup
import HrServer.Server.Bind
import HrServer.Server.Yaml
import HrServer.Server.Conf
import HrServer.Lib.Escape
import HrServer.Lib.Cut
import HrServer.Util.JsonEscape
import HrServer.Util.Trim
import HrServer.Lib.Search
import HrServer.Util.Split
import HrServer.Util.Hash
import HrServer.Util.Replace
import HrServer.Http.Dump
import HrServer.Http.Methods
import HrServer.Lib.HeaderLines
import HrServer.Http.Framing
import HrServer.Config.Load
import HrServer.Http.ClientTables
import HrServer.Http.ClientParser
import HrServer.Http.ClientOffsets
import HrServer.Lib.FileTree
import HrServer.Util.FsUtil
import HrServer.Lib.Checked
import HrServer.Lib.SortedSearch
import HrServer.Util.BinarySearch
import HrServer.ByteArray.Zigzag
import HrServer.Lib.Ones
import HrServer.Net.Interfaces
import HrServer.Http.Body
